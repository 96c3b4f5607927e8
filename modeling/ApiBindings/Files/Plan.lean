import ApiBindings.Files.Call

/-!
# Plans

A plan is a program over a file tree: a result, or a system call and a plan for each answer. It can
be run on a tree, which gives the result and the tree afterwards, and it tells in which states the
tree may be left if the program is stopped.
-/

namespace ApiBindings.Files

/-- A program over a file tree. -/
inductive Plan (α : Type) : Type where
  | done (a : α)
  | call (c : Call) (next : c.Answer → Plan α)

namespace Plan

variable {α β ε : Type}

/-- Goes on with the result. -/
def bind : Plan α → (α → Plan β) → Plan β
  | done a, f => f a
  | call c next, f => call c fun answer => (next answer).bind f

instance : Monad Plan where
  pure := done
  bind := bind

/-- A single call. -/
def ask (c : Call) : Plan c.Answer := call c done

/-- Goes on with the result unless there is an error. -/
def andThen (p : Plan (Except ε α)) (f : α → Plan (Except ε β)) : Plan (Except ε β) :=
  p.bind fun
    | .ok a => f a
    | .error e => done (.error e)

/-- The result of a plan and the tree after it. -/
def run : Plan α → Tree → α × Tree
  | done a, t => (a, t)
  | call c next, t => (next (c.perform t).1).run (c.perform t).2

/-- The states of the tree from start to end, those halfway through a call among them. -/
def states : Plan α → Tree → List Tree
  | done _, t => [t]
  | call c next, t => t :: c.halfway t ++ (next (c.perform t).1).states (c.perform t).2

/-- Running two plans in a row runs the second where the first ended. -/
theorem run_bind (p : Plan α) (f : α → Plan β) (t : Tree) :
    (p.bind f).run t = (f (p.run t).1).run (p.run t).2 := by
  induction p generalizing t with
  | done => rfl
  | call c next ih => exact ih _ _

/-- A plan starts in the tree it is given. -/
theorem mem_states_self (p : Plan α) (t : Tree) : t ∈ p.states t := by
  cases p <;> simp [states]

end Plan

end ApiBindings.Files
