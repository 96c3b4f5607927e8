import ApiBindings.Bindings.Report
import ApiBindings.Service.Description
import ApiBindings.Text.Name

/-!
# Expansion of shapes

The tree that a shape stands for once the names in it are followed. Shapes may refer to each other
in cycles: a shape that is met below itself is not expanded again, and its kind stands in its
place. The chain of shapes under expansion is what decides this, so branches beside each other may
expand the same shape.

Each step down puts a declared shape on the chain that was not there before, so the expansion ends
whatever the references are.
-/

namespace ApiBindings.Bindings

open Service

/-- A shape with the shapes in it. A structure lists its members by the names they are shown
under, with a mark for those that are required. -/
inductive Expansion where
  | word (text : String)
  | values (texts : List String)
  | list (element : Expansion)
  | struct (members : List (String × Bool × Expansion))

/-- The signing name whose services show member names with a capital. -/
def capitalizingService : String := "ec2"

/-- The name that a member is shown under. -/
def displayName (m : Metadata) (name : String) (member : Member) : String :=
  let shown := member.locationName.getD name
  if m.signingName = capitalizingService then Text.capitalize shown else shown

/-- How many declared shapes a chain leaves out. -/
def freeShapes (d : Description) (chain : List String) : Nat :=
  (d.shapes.names.filter fun name => !chain.contains name).length

private theorem mem_names_of_lookup {α : Type} {name : String} {a : α}
    {entries : List (String × α)} (h : entries.lookup name = some a) :
    name ∈ entries.map Prod.fst := by
  induction entries with
  | nil => cases h
  | cons e rest ih =>
    obtain ⟨k, v⟩ := e
    by_cases hk : name = k
    · simp [hk]
    · rw [List.lookup_cons, beq_eq_false_iff_ne.mpr hk] at h
      exact List.mem_cons_of_mem _ (ih h)

private theorem length_filter_lt {p q : String → Bool} {names : List String} {name : String}
    (hmem : name ∈ names) (hp : p name = true) (hq : q name = false)
    (hle : ∀ x, q x = true → p x = true) :
    (names.filter q).length < (names.filter p).length := by
  induction names with
  | nil => cases hmem
  | cons x names ih =>
    have hsub : (names.filter q).length ≤ (names.filter p).length := by
      have hcount := List.countP_mono_left (l := names) (p := q) (q := p) fun y _ => hle y
      rwa [List.countP_eq_length_filter, List.countP_eq_length_filter] at hcount
    rcases List.mem_cons.mp hmem with rfl | hrest
    · simp [hp, hq]
      omega
    · have := ih hrest
      by_cases hx : q x = true
      · simp [hx, hle x hx, this]
      · have hx : q x = false := by simpa using hx
        cases hpx : p x <;> simp [hx, hpx] <;> omega

/-- A declared shape that joins a chain is no longer free. -/
theorem freeShapes_append_lt {d : Description} {chain : List String} {name : String}
    {shape : Shape} (hfound : d.shapes.find? name = some shape)
    (hnew : chain.contains name = false) :
    freeShapes d (chain ++ [name]) < freeShapes d chain := by
  refine length_filter_lt (mem_names_of_lookup hfound) ?_ ?_ ?_
  · simpa using hnew
  · simp
  · intro x hx
    simp_all

/-- Expands a shape below a chain of shapes under expansion. -/
def expand (d : Description) (chain : List String) (name : String) : Report Expansion :=
  match _hfound : d.shapes.find? name with
  | none => .fail (.unknownShape name)
  | some shape =>
    if _hcycle : chain.contains name = true then
      (Report.note (.recursion name chain)).map fun _ => .word shape.kind
    else match shape with
      | .struct s =>
        (Report.each (fun (member : String × Member) =>
          (expand d (chain ++ [name]) member.2.shape).map fun value =>
            (displayName d.metadata member.1 member.2, s.isRequired member.1, value))
          s.members.entries).map .struct
      | .list element => (expand d (chain ++ [name]) element.shape).map .list
      | .map => .done (.word "::Dict\x7bString,String\x7d")
      | .string values => .done (if values.isEmpty then .word "::String" else .values values)
      | .integer | .long => .done (.word "::Int")
      | .boolean => .done (.word "::Bool")
      | .other kind => .done (.word kind)
termination_by freeShapes d chain
decreasing_by
  all_goals exact freeShapes_append_lt _hfound (by simpa using _hcycle)

end ApiBindings.Bindings
