import ApiBindings.Files.Plan

/-!
# What a plan ensures

A plan may be stopped in any of its states. What holds in all of them and what holds at its end is
shown along its calls: an invariant of every state, those halfway through a call among them, and a
condition on the result and the last tree. Beside that a plan tells which calls it made and how
they were answered.
-/

namespace ApiBindings.Files

namespace Plan

variable {α β ε : Type} {t : Tree} {c : Call} {inv inv' : Tree → Prop} {a : α}

/-! ### States of a sequence -/

/-- A plan may be stopped at its end. -/
theorem mem_states_run (p : Plan α) (t : Tree) : (p.run t).2 ∈ p.states t := by
  induction p generalizing t with
  | done => simp [run, states]
  | call c next ih => exact List.mem_append_right _ (ih _ _)

/-- The states of two plans in a row are those of the first, and those of the second from where the
first ended. -/
theorem mem_states_bind {p : Plan α} {f : α → Plan β} {s : Tree} :
    s ∈ (p.bind f).states t ↔ s ∈ p.states t ∨ s ∈ (f (p.run t).1).states (p.run t).2 := by
  induction p generalizing t with
  | done a =>
    simp only [bind, states, run, List.mem_singleton]
    refine ⟨.inr, ?_⟩
    rintro (rfl | h)
    · exact mem_states_self _ _
    · exact h
  | call c next ih =>
    simp only [bind, states, run, List.mem_append, ih, or_assoc]

/-- After an error nothing more is done. -/
theorem run_andThen (p : Plan (Except ε α)) (f : α → Plan (Except ε β)) (t : Tree) :
    (p.andThen f).run t = match (p.run t).1 with
      | .ok a => (f a).run (p.run t).2
      | .error e => (.error e, (p.run t).2) := by
  rw [andThen, run_bind]
  cases (p.run t).1 <;> rfl

/-- Of three plans in a row either two may be put together first. -/
theorem bind_assoc {γ : Type} (p : Plan α) (f : α → Plan β) (g : β → Plan γ) :
    (p.bind f).bind g = p.bind fun a => (f a).bind g := by
  induction p with
  | done => rfl
  | call c next ih => exact congrArg (call c) (funext ih)

/-- Of three plans in a row either two may be put together first, errors or not. -/
theorem andThen_assoc {γ : Type} (p : Plan (Except ε α)) (f : α → Plan (Except ε β))
    (g : β → Plan (Except ε γ)) :
    (p.andThen f).andThen g = p.andThen fun a => (f a).andThen g := by
  rw [andThen, andThen, bind_assoc]
  refine congrArg p.bind (funext fun answer => ?_)
  cases answer <;> rfl

/-- A plan ends with its result and a tree. -/
theorem run_eq_of_fst_eq {p : Plan α} (h : (p.run t).1 = a) : p.run t = (a, (p.run t).2) :=
  Prod.ext h rfl

/-- Plans in a row end well if each of them does. -/
theorem run_andThen_eq_ok_iff {p : Plan (Except ε α)} {f : α → Plan (Except ε β)} {b : β}
    {r : Tree} :
    (p.andThen f).run t = (.ok b, r) ↔
      ∃ a s, p.run t = (.ok a, s) ∧ (f a).run s = (.ok b, r) := by
  rw [run_andThen]
  rcases p.run t with ⟨e | a, s⟩
  · simp
  · constructor
    · intro h
      exact ⟨a, s, rfl, h⟩
    · rintro ⟨_, _, h, hnext⟩
      cases h
      exact hnext

/-- After an error no other states are passed. -/
theorem mem_states_andThen {p : Plan (Except ε α)} {f : α → Plan (Except ε β)} {s : Tree} :
    s ∈ (p.andThen f).states t ↔
      s ∈ p.states t ∨ ∃ a, (p.run t).1 = .ok a ∧ s ∈ (f a).states (p.run t).2 := by
  rw [andThen, mem_states_bind]
  cases hresult : (p.run t).1 with
  | error e =>
    simp only [states, List.mem_singleton, reduceCtorEq, false_and, exists_false, or_false,
      or_iff_left_iff_imp]
    rintro rfl
    exact mem_states_run p t
  | ok a => simp

/-! ### Conditions on an execution -/

/-- Started in a tree, a plan keeps an invariant in all its states, and its result and the tree
after it meet a condition. -/
structure Ensures (p : Plan α) (t : Tree) (inv : Tree → Prop) (post : α → Tree → Prop) : Prop where
  throughout : ∀ s ∈ p.states t, inv s
  atEnd : post (p.run t).1 (p.run t).2

namespace Ensures

variable {p : Plan α} {f : α → Plan β} {mid post post' : α → Tree → Prop}
  {postβ : β → Tree → Prop}

/-- A finished plan stays where it is. -/
theorem done (hinv : inv t) (hpost : post a t) : (Plan.done a).Ensures t inv post where
  throughout s hs := by
    rw [List.mem_singleton.mp hs]
    exact hinv
  atEnd := hpost

/-- A call leads on to the plan for its answer. -/
theorem call {next : c.Answer → Plan α} (hinv : inv t) (hhalfway : ∀ s ∈ c.halfway t, inv s)
    (hnext : (next (c.perform t).1).Ensures (c.perform t).2 inv post) :
    (Plan.call c next).Ensures t inv post where
  throughout s hs := by
    simp only [states, List.cons_append, List.mem_cons, List.mem_append] at hs
    rcases hs with rfl | hs | hs
    · exact hinv
    · exact hhalfway s hs
    · exact hnext.throughout s hs
  atEnd := hnext.atEnd

/-- Less may be asked of a plan. -/
theorem mono (h : p.Ensures t inv post) (hinv : ∀ s, inv s → inv' s)
    (hpost : ∀ a s, inv s → post a s → post' a s) : p.Ensures t inv' post' where
  throughout s hs := hinv s (h.throughout s hs)
  atEnd := hpost _ _ (h.throughout _ (mem_states_run p t)) h.atEnd

/-- Of two plans in a row the second starts from what the first ensures at its end. -/
theorem bind (h : p.Ensures t inv mid)
    (hf : ∀ a s, inv s → mid a s → (f a).Ensures s inv postβ) :
    (p.bind f).Ensures t inv postβ := by
  have hnext := hf _ _ (h.throughout _ (mem_states_run p t)) h.atEnd
  refine ⟨fun s hs => ?_, ?_⟩
  · rcases mem_states_bind.mp hs with hs | hs
    · exact h.throughout s hs
    · exact hnext.throughout s hs
  · rw [run_bind]
    exact hnext.atEnd

/-- After a plan that leaves the tree as it was the next one starts from there. -/
theorem bind_of_eq (h : p.Ensures t (· = t) fun _ s => s = t)
    (hf : (f (p.run t).1).Ensures t (· = t) postβ) : (p.bind f).Ensures t (· = t) postβ := by
  have hresult : p.Ensures t (· = t) fun a s => a = (p.run t).1 ∧ s = t :=
    ⟨h.throughout, rfl, h.atEnd⟩
  refine hresult.bind fun a s _ hend => ?_
  obtain ⟨rfl, rfl⟩ := hend
  exact hf

/-- Of two plans in a row the second need not ensure anything after an error of the first. -/
theorem andThen {p : Plan (Except ε α)} {f : α → Plan (Except ε β)}
    {mid : Except ε α → Tree → Prop} {post : Except ε β → Tree → Prop}
    (h : p.Ensures t inv mid) (herror : ∀ e s, inv s → mid (.error e) s → post (.error e) s)
    (hok : ∀ a s, inv s → mid (.ok a) s → (f a).Ensures s inv post) :
    (p.andThen f).Ensures t inv post := by
  refine h.bind fun answer s hinv hmid => ?_
  cases answer with
  | error e => exact done hinv (herror e s hinv hmid)
  | ok a => exact hok a s hinv hmid

end Ensures

/-! ### Calls and answers -/

/-- A call with the answer it got. -/
abbrev Answered : Type := (c : Call) × c.Answer

/-- The calls of a plan with their answers, in order. -/
def asked : Plan α → Tree → List Answered
  | done _, _ => []
  | call c next, t => ⟨c, (c.perform t).1⟩ :: (next (c.perform t).1).asked (c.perform t).2

/-- Two plans in a row make the calls of the first, then those of the second. -/
theorem asked_bind (p : Plan α) (f : α → Plan β) (t : Tree) :
    (p.bind f).asked t = p.asked t ++ (f (p.run t).1).asked (p.run t).2 := by
  induction p generalizing t with
  | done => rfl
  | call c next ih => simp only [bind, asked, run, ih, List.cons_append]

/-- After an error nothing more is called. -/
theorem mem_asked_andThen {p : Plan (Except ε α)} {f : α → Plan (Except ε β)} {call : Answered} :
    call ∈ (p.andThen f).asked t ↔
      call ∈ p.asked t ∨ ∃ a, (p.run t).1 = .ok a ∧ call ∈ (f a).asked (p.run t).2 := by
  rw [andThen, asked_bind, List.mem_append]
  cases (p.run t).1 <;> simp [asked]

/-- Whether a plan makes only calls of some sort, however it is answered. -/
inductive Only (sort : Call → Prop) : Plan α → Prop where
  | done (a : α) : Only sort (done a)
  | call {c : Call} {next : c.Answer → Plan α} (h : sort c)
    (hnext : ∀ answer, Only sort (next answer)) : Only sort (call c next)

namespace Only

variable {sort : Call → Prop} {p : Plan α} {f : α → Plan β}

/-- A single call is of its sort. -/
theorem ask (h : sort c) : Only sort (ask c) := call h fun answer => done answer

/-- Two plans in a row make only calls of the sort that both of them make. -/
theorem bind (h : Only sort p) (hf : ∀ a, Only sort (f a)) : Only sort (p.bind f) := by
  induction h with
  | done a => exact hf a
  | call h _ ih => exact call h ih

/-- Nothing is called after an error. -/
theorem andThen {p : Plan (Except ε α)} {f : α → Plan (Except ε β)} (h : Only sort p)
    (hf : ∀ a, Only sort (f a)) : Only sort (p.andThen f) := by
  refine h.bind fun answer => ?_
  cases answer with
  | error e => exact done _
  | ok a => exact hf a

/-- The calls that are made are of the sort. -/
theorem sort_of_asked (h : Only sort p) {call : Answered} (hcall : call ∈ p.asked t) :
    sort call.1 := by
  induction h generalizing t with
  | done a => cases hcall
  | call h _ ih =>
    rcases List.mem_cons.mp hcall with rfl | hcall
    · exact h
    · exact ih _ hcall

/-- A plan whose calls change nothing stays where it is. -/
theorem ensures_eq (h : Only sort p)
    (hsort : ∀ c, sort c → ∀ t, (c.perform t).2 = t ∧ c.halfway t = []) :
    p.Ensures t (· = t) fun _ s => s = t := by
  induction h with
  | done a => exact .done rfl rfl
  | @call c next h _ ih =>
    obtain ⟨hperform, hhalfway⟩ := hsort c h t
    refine .call rfl (fun s hs => ?_) ?_
    · rw [hhalfway] at hs
      cases hs
    · rw [hperform]
      exact ih _

end Only

end Plan

end ApiBindings.Files
