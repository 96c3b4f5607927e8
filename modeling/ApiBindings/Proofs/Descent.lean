import ApiBindings.Bindings.Expansion
import ApiBindings.Proofs.Report
import ApiBindings.Proofs.Walk

/-!
# The descent of an expansion

An expansion visits positions below its shape, depth first and members in order. It goes below a
visited shape unless that is undeclared or on the chain already, so what it visits are the ends of
the walks that leave no shape twice and none of the chain. What it reports is what the visited
positions give one after the other: a failure for an undeclared name, an event for a recurring
shape, nothing else.
-/

namespace ApiBindings.Bindings

open Service
open Service.Description (Walk)

variable {d : Description} {chain : List String} {name : String}

/-! ### One step of an expansion -/

/-- A step down from a new shape leaves fewer declared shapes off the chain, so what is passed up
along the references holds everywhere. -/
theorem descent_induction {d : Description} {motive : List String → String → Prop}
    (undeclared : ∀ chain name, d.shapes.find? name = none → motive chain name)
    (recurring : ∀ chain name shape, d.shapes.find? name = some shape → name ∈ chain →
      motive chain name)
    (new : ∀ chain name shape, d.shapes.find? name = some shape → name ∉ chain →
      (∀ next ∈ shape.references, motive (chain ++ [name]) next) → motive chain name)
    (chain : List String) (name : String) : motive chain name := by
  induction hfree : freeShapes d chain using Nat.strongRecOn generalizing chain name with
  | _ free ih =>
    subst hfree
    cases hfound : d.shapes.find? name with
    | none => exact undeclared chain name hfound
    | some shape =>
      by_cases hmem : name ∈ chain
      · exact recurring chain name shape hfound hmem
      · have hlt : freeShapes d (chain ++ [name]) < freeShapes d chain :=
          freeShapes_append_lt hfound (by simpa using hmem)
        exact new chain name shape hfound hmem fun next _ => ih _ hlt _ _ rfl

/-- The expansion of a shape, given that of the names in it. -/
def expandShape (m : Metadata) (recur : String → Report Expansion) : Shape → Report Expansion
  | .struct s =>
    (Report.each (fun (member : String × Member) =>
      (recur member.2.shape).map fun value =>
        (displayName m member.1 member.2, s.isRequired member.1, value))
      s.members.entries).map .struct
  | .list element => (recur element.shape).map .list
  | .map => .done (.word "::Dict\x7bString,String\x7d")
  | .string values => .done (if values.isEmpty then .word "::String" else .values values)
  | .integer | .long => .done (.word "::Int")
  | .boolean => .done (.word "::Bool")
  | .other kind => .done (.word kind)

/-- An undeclared name cannot be expanded, not even where it would recur. -/
theorem expand_undeclared (hfound : d.shapes.find? name = none) :
    expand d chain name = .fail (.unknownShape name) := by
  rw [expand]
  split
  · rfl
  · next h => rw [hfound] at h; cases h

/-- A recurring shape is its kind. -/
theorem expand_recurring {shape : Shape} (hfound : d.shapes.find? name = some shape)
    (hmem : name ∈ chain) :
    expand d chain name = (Report.note (.recursion name chain)).map fun _ => .word shape.kind := by
  rw [expand]
  split
  · next h => rw [hfound] at h; cases h
  · next other h =>
    rw [hfound] at h
    cases h
    rw [dif_pos (by simpa using hmem)]

/-- A new shape is expanded below a chain that it ends. -/
theorem expand_new {shape : Shape} (hfound : d.shapes.find? name = some shape)
    (hnew : name ∉ chain) :
    expand d chain name = expandShape d.metadata (expand d (chain ++ [name])) shape := by
  rw [expand]
  split
  · next h => rw [hfound] at h; cases h
  · next other h =>
    rw [hfound] at h
    cases h
    rw [dif_neg (by simpa using hnew)]
    cases shape <;> rfl

private theorem discard_expandShape (m : Metadata) (recur : String → Report Expansion)
    (shape : Shape) :
    (expandShape m recur shape).discard = (Report.each recur shape.references).discard := by
  cases shape with
  | struct s =>
    rw [expandShape, Report.discard_map, Report.discard_each_map, Shape.references,
      Report.each_comp]
  | list element =>
    rw [expandShape, Report.discard_map, Shape.references, Report.discard_each_cons]
    cases h : (recur element.shape).outcome <;>
      simp [Report.discard, Report.map, Report.bind, Report.done, h, Except.map]
  | _ => rfl

namespace Expansion

/-- The expansions directly inside an expansion. -/
def children : Expansion → List Expansion
  | list element => [element]
  | struct members => members.map fun member => member.2.2
  | _ => []

/-- Whether an expansion looks like a shape, as far as can be told without following its
references. -/
def Shows (m : Metadata) (e : Expansion) : Shape → Prop
  | .struct s => ∃ members, e = struct members ∧
      members.map (fun member => (member.1, member.2.1)) =
        s.members.entries.map fun member =>
          (displayName m member.1 member.2, s.isRequired member.1)
  | .list _ => ∃ element, e = list element
  | .map => e = word "::Dict\x7bString,String\x7d"
  | .string texts => e = if texts.isEmpty then word "::String" else values texts
  | .integer | .long => e = word "::Int"
  | .boolean => e = word "::Bool"
  | .other kind => e = word kind

end Expansion

private theorem forall₂_member_iff {R : Member → Expansion → Prop}
    {f : String × Member → String × Bool} {entries : List (String × Member)}
    {members : List (String × Bool × Expansion)} :
    List.Forall₂ (fun member shown => ∃ value, R member.2 value ∧
        ((f member).1, (f member).2, value) = shown) entries members ↔
      members.map (fun shown => (shown.1, shown.2.1)) = entries.map f ∧
        List.Forall₂ (fun member shown => R member.2 shown.2.2) entries members := by
  induction entries generalizing members with
  | nil => cases members <;> simp
  | cons member entries ih =>
    cases members with
    | nil => simp
    | cons shown members =>
      obtain ⟨shownName, required, value⟩ := shown
      rw [List.forall₂_cons, ih, List.forall₂_cons, List.map_cons, List.map_cons, List.cons.injEq]
      constructor
      · rintro ⟨⟨_, hvalue, heq⟩, hmap, hrest⟩
        cases heq
        exact ⟨⟨rfl, hmap⟩, hvalue, hrest⟩
      · rintro ⟨⟨heq, hmap⟩, hvalue, hrest⟩
        refine ⟨⟨value, hvalue, ?_⟩, hmap, hrest⟩
        rw [← heq]

private theorem outcome_leaf_iff {x e : Expansion} {R : String → Expansion → Prop}
    (hx : x.children = []) :
    (Report.done x).outcome = .ok e ↔ e = x ∧ List.Forall₂ R [] e.children := by
  constructor
  · intro h
    cases h
    exact ⟨rfl, by simp [hx]⟩
  · intro h
    rw [h.1]
    rfl

/-- The expansion of a shape looks like the shape and has the expansions of its references
inside. -/
theorem outcome_expandShape_eq_ok_iff {m : Metadata} {recur : String → Report Expansion}
    {shape : Shape} {e : Expansion} :
    (expandShape m recur shape).outcome = .ok e ↔
      e.Shows m shape ∧
        List.Forall₂ (fun next child => (recur next).outcome = .ok child) shape.references
          e.children := by
  cases shape with
  | struct s =>
    rw [expandShape, Report.outcome_map_eq_ok_iff]
    simp only [Report.outcome_each_eq_ok_iff, Report.outcome_map_eq_ok_iff]
    simp only [forall₂_member_iff (f := fun member =>
      (displayName m member.1 member.2, s.isRequired member.1))
      (R := fun member value => (recur member.shape).outcome = .ok value)]
    constructor
    · rintro ⟨members, ⟨hmap, hchildren⟩, rfl⟩
      refine ⟨⟨members, rfl, hmap⟩, ?_⟩
      rwa [Shape.references, Expansion.children, List.forall₂_map_left_iff,
        List.forall₂_map_right_iff]
    · rintro ⟨⟨members, rfl, hmap⟩, hchildren⟩
      rw [Shape.references, Expansion.children, List.forall₂_map_left_iff,
        List.forall₂_map_right_iff] at hchildren
      exact ⟨members, ⟨hmap, hchildren⟩, rfl⟩
  | list element =>
    rw [expandShape, Report.outcome_map_eq_ok_iff]
    constructor
    · rintro ⟨child, hchild, rfl⟩
      exact ⟨⟨child, rfl⟩, .cons hchild .nil⟩
    · rintro ⟨⟨child, rfl⟩, hchildren⟩
      cases hchildren with
      | cons hchild _ => exact ⟨child, hchild, rfl⟩
  | string texts =>
    refine outcome_leaf_iff ?_
    split <;> rfl
  | _ => exact outcome_leaf_iff rfl

/-! ### The visited positions -/

/-- A position that an expansion visits: the numbers of the references that lead there, the chain
above it, and its shape. -/
structure Visit where
  position : List Nat
  chain : List String
  shape : String

/-- A visit seen from one step further up. -/
def Visit.below (i : Nat) (v : Visit) : Visit := { v with position := i :: v.position }

/-- The positions that the expansion of a shape visits, in order, if nothing stops it. -/
def visits (d : Description) (chain : List String) (name : String) : List Visit :=
  ⟨[], chain, name⟩ ::
    match _hfound : d.shapes.find? name with
    | none => []
    | some shape =>
      if _hcycle : chain.contains name = true then []
      else shape.references.zipIdx.flatMap fun (next, i) =>
        (visits d (chain ++ [name]) next).map (Visit.below i)
termination_by freeShapes d chain
decreasing_by exact freeShapes_append_lt _hfound (by simpa using _hcycle)

/-- There is nothing to visit below an undeclared name. -/
theorem visits_undeclared (hfound : d.shapes.find? name = none) :
    visits d chain name = [⟨[], chain, name⟩] := by
  rw [visits]
  split
  · rfl
  · next h => rw [hfound] at h; cases h

/-- Nothing is visited below a recurring shape. -/
theorem visits_recurring (hmem : name ∈ chain) : visits d chain name = [⟨[], chain, name⟩] := by
  rw [visits]
  split
  · rfl
  · rw [dif_pos (by simpa using hmem)]

/-- A new shape is visited before what is below it. -/
theorem visits_new {shape : Shape} (hfound : d.shapes.find? name = some shape)
    (hnew : name ∉ chain) :
    visits d chain name =
      ⟨[], chain, name⟩ :: shape.references.zipIdx.flatMap fun (next, i) =>
        (visits d (chain ++ [name]) next).map (Visit.below i) := by
  rw [visits]
  split
  · next h => rw [hfound] at h; cases h
  · next other h =>
    rw [hfound] at h
    cases h
    rw [dif_neg (by simpa using hnew)]

/-- One list after another leaves no shape twice and none of the chain if the first one does, and
the second one below the chain that it ends. -/
theorem clear_append_iff {passed rest : List String} :
    ((passed ++ rest).Nodup ∧ ∀ x ∈ passed ++ rest, x ∉ chain) ↔
      (passed.Nodup ∧ ∀ x ∈ passed, x ∉ chain) ∧
        rest.Nodup ∧ ∀ x ∈ rest, x ∉ chain ++ passed := by
  rw [List.nodup_append']
  constructor
  · rintro ⟨⟨hpassed, hrest, hapart⟩, hclear⟩
    refine ⟨⟨hpassed, fun x hx => hclear x (by simp [hx])⟩, hrest, ?_⟩
    intro x hx hmem
    rcases List.mem_append.mp hmem with hmem | hmem
    · exact hclear x (by simp [hx]) hmem
    · exact hapart hmem hx
  · rintro ⟨⟨hpassed, hclear⟩, hrest, hapart⟩
    refine ⟨⟨hpassed, hrest, fun x hx hx' => hapart x hx' (by simp [hx])⟩, ?_⟩
    intro x hx
    rcases List.mem_append.mp hx with hx | hx
    · exact hclear x hx
    · intro hmem
      exact hapart x hx (by simp [hmem])

/-- A first shape that is new on the chain may be put before what is clear below it. -/
theorem clear_cons_iff {passed : List String} :
    ((name :: passed).Nodup ∧ ∀ x ∈ name :: passed, x ∉ chain) ↔
      name ∉ chain ∧ passed.Nodup ∧ ∀ x ∈ passed, x ∉ chain ++ [name] := by
  rw [← List.singleton_append, clear_append_iff]
  simp

private theorem walk_stays {position : List Nat} {passed : List String} {last : String}
    (walk : d.Walk name position passed last)
    (hstop : d.shapes.find? name = none ∨ name ∈ chain) (hpassed : ∀ x ∈ passed, x ∉ chain) :
    position = [] ∧ passed = [] ∧ last = name := by
  cases walk with
  | stay => exact ⟨rfl, rfl, rfl⟩
  | step head tail =>
    have hdeclared := (Description.refers_of_getElem? head).declares
    rcases hstop with hnone | hmem
    · exact absurd hdeclared (Description.not_declares_iff.mpr hnone)
    · exact absurd hmem (hpassed name (by simp))

private theorem mem_visits_stopped {v : Visit}
    (hstop : d.shapes.find? name = none ∨ name ∈ chain) :
    v ∈ [(⟨[], chain, name⟩ : Visit)] ↔
      ∃ passed, d.Walk name v.position passed v.shape ∧ v.chain = chain ++ passed ∧
        passed.Nodup ∧ ∀ x ∈ passed, x ∉ chain := by
  rw [List.mem_singleton]
  constructor
  · rintro rfl
    exact ⟨[], .stay name, by simp, .nil, by simp⟩
  · rintro ⟨passed, walk, hchain, -, hpassed⟩
    obtain ⟨hposition, rfl, hshape⟩ := walk_stays walk hstop hpassed
    obtain ⟨position, vchain, shape⟩ := v
    simp only at hposition hshape hchain
    simp [hposition, hshape, hchain]

/-- The visited positions are the ends of the walks that leave no shape twice and none of the
chain. -/
theorem mem_visits_iff {d : Description} {chain : List String} {name : String} {v : Visit} :
    v ∈ visits d chain name ↔
      ∃ passed, d.Walk name v.position passed v.shape ∧ v.chain = chain ++ passed ∧
        passed.Nodup ∧ ∀ x ∈ passed, x ∉ chain := by
  induction chain, name using descent_induction (d := d) generalizing v with
  | undeclared chain name hfound =>
    rw [visits_undeclared hfound]
    exact mem_visits_stopped (.inl hfound)
  | recurring chain name shape hfound hmem =>
    rw [visits_recurring hmem]
    exact mem_visits_stopped (.inr hmem)
  | new chain name shape hfound hnew ih =>
    rw [visits_new hfound hnew, List.mem_cons]
    simp only [List.mem_flatMap, List.mem_map, List.mem_zipIdx_iff_getElem?, Prod.exists]
    constructor
    · rintro (rfl | ⟨next, i, hnext, w, hw, rfl⟩)
      · exact ⟨[], .stay name, by simp, .nil, by simp⟩
      · obtain ⟨passed, walk, hchain, hclear⟩ := (ih next (List.mem_of_getElem? hnext)).mp hw
        refine ⟨name :: passed, .step ?_ walk, by simp [Visit.below, hchain],
          clear_cons_iff.mpr ⟨hnew, hclear⟩⟩
        rwa [Description.referencesOf_eq hfound]
    · rintro ⟨passed, walk, hchain, hclear⟩
      obtain ⟨position, vchain, last⟩ := v
      cases walk with
      | stay => exact .inl (by simpa using hchain)
      | @step _ next _ i position passed head tail =>
        rw [Description.referencesOf_eq hfound] at head
        have hbelow := (clear_cons_iff.mp hclear).2
        refine .inr ⟨next, i, head, ⟨position, vchain, last⟩, ?_, rfl⟩
        exact (ih next (List.mem_of_getElem? head)).mpr
          ⟨passed, tail, by simpa using hchain, hbelow⟩

private theorem pairwise_zipIdx {α : Type} (l : List α) :
    l.zipIdx.Pairwise fun a b => a.2 < b.2 := by
  have h := List.pairwise_lt_range' (s := 0) (n := l.length)
  rwa [← List.zipIdx_map_snd, List.pairwise_map] at h

/-- Positions are visited in lexicographic order: each before those below it, and these member by
member. -/
theorem pairwise_visits (d : Description) (chain : List String) (name : String) :
    (visits d chain name).Pairwise fun v w => v.position < w.position := by
  induction chain, name using descent_induction (d := d) with
  | undeclared chain name hfound =>
    rw [visits_undeclared hfound]
    exact List.pairwise_singleton _ _
  | recurring chain name shape hfound hmem =>
    rw [visits_recurring hmem]
    exact List.pairwise_singleton _ _
  | new chain name shape hfound hnew ih =>
    rw [visits_new hfound hnew, List.pairwise_cons, List.pairwise_flatMap]
    refine ⟨?_, ?_, ?_⟩
    · intro v hv
      obtain ⟨⟨next, i⟩, -, hv⟩ := List.mem_flatMap.mp hv
      obtain ⟨w, -, rfl⟩ := List.mem_map.mp hv
      exact List.nil_lt_cons i w.position
    · rintro ⟨next, i⟩ hnext
      rw [List.pairwise_map]
      apply (ih next (List.fst_mem_of_mem_zipIdx hnext)).imp
      intro v w hlt
      exact List.cons_lt_cons_iff.mpr (.inr ⟨rfl, hlt⟩)
    · apply (pairwise_zipIdx shape.references).imp
      intro a b hlt v hv w hw
      obtain ⟨v, -, rfl⟩ := List.mem_map.mp hv
      obtain ⟨w, -, rfl⟩ := List.mem_map.mp hw
      exact List.cons_lt_cons_iff.mpr (.inl hlt)

/-! ### What an expansion reports -/

/-- What the visit of a position gives. -/
def inspect (d : Description) (v : Visit) : Report Unit :=
  if d.Declares v.shape then
    if v.shape ∈ v.chain then .note (.recursion v.shape v.chain) else .done ()
  else .fail (.unknownShape v.shape)

private theorem discard_inspect_single (v : Visit) :
    (Report.each (inspect d) [v]).discard = inspect d v := by
  rw [Report.discard_each_cons]
  unfold inspect
  split
  · split <;> rfl
  · rfl

/-- Expanding a shape reports what its visited positions give one after the other. -/
theorem discard_expand (d : Description) (chain : List String) (name : String) :
    (expand d chain name).discard = (Report.each (inspect d) (visits d chain name)).discard := by
  induction chain, name using descent_induction (d := d) with
  | undeclared chain name hfound =>
    rw [visits_undeclared hfound, discard_inspect_single, expand_undeclared hfound, inspect,
      if_neg (Description.not_declares_iff.mpr hfound)]
    rfl
  | recurring chain name shape hfound hmem =>
    rw [visits_recurring hmem, discard_inspect_single, expand_recurring hfound hmem,
      inspect, if_pos (Description.declares_iff.mpr ⟨shape, hfound⟩), if_pos hmem]
    rfl
  | new chain name shape hfound hnew ih =>
    have hself : inspect d ⟨[], chain, name⟩ = .done () := by
      rw [inspect, if_pos (Description.declares_iff.mpr ⟨shape, hfound⟩), if_neg hnew]
    have hreferences : Report.each (expand d (chain ++ [name])) shape.references =
        Report.each (fun reference : String × Nat => expand d (chain ++ [name]) reference.1)
          shape.references.zipIdx := by
      conv_lhs => rw [← List.zipIdx_map_fst 0 shape.references]
      rw [Report.each_comp]
    rw [visits_new hfound hnew, expand_new hfound hnew, discard_expandShape,
      Report.discard_each_cons, hself, hreferences]
    refine Report.discard_each_flatMap ?_
    rintro ⟨next, i⟩ hnext
    rw [ih next (List.fst_mem_of_mem_zipIdx hnext), Report.each_comp]
    rfl

/-- Whether a visited position is a loose end. -/
def Visit.isLoose (d : Description) (v : Visit) : Bool := !d.Declares v.shape

/-- Whether the shape of a visited position recurs. -/
def Visit.recurs (v : Visit) : Bool := v.chain.contains v.shape

/-- The event of a recurring shape. -/
def Visit.event (v : Visit) : Event := .recursion v.shape v.chain

/-- Whatever an expansion reports is a declared shape that recurs where it is visited. -/
theorem exists_visit_of_mem_events {e : Event} (he : e ∈ (expand d chain name).events) :
    ∃ v ∈ visits d chain name, d.Declares v.shape ∧ v.shape ∈ v.chain ∧ e = v.event := by
  have hevents : (expand d chain name).events =
      (Report.each (inspect d) (visits d chain name)).events :=
    congrArg Report.events (discard_expand d chain name)
  rw [hevents, Report.events_each, List.mem_flatMap] at he
  obtain ⟨v, hv, he⟩ := he
  unfold inspect at he
  split at he
  · next hdeclared =>
    split at he
    · next hrecurs =>
      exact ⟨v, Report.mem_of_mem_reached hv, hdeclared, hrecurs, List.mem_singleton.mp he⟩
    · cases he
  · cases he

private theorem outcome_inspect (d : Description) (vs : List Visit) :
    (Report.each (inspect d) vs).discard.outcome =
      match vs.find? (Visit.isLoose d) with
      | some v => .error (.unknownShape v.shape)
      | none => .ok () := by
  induction vs with
  | nil => rfl
  | cons v vs ih =>
    rw [Report.discard_each_cons, List.find?_cons]
    by_cases hv : d.Declares v.shape
    · by_cases hmem : v.shape ∈ v.chain <;>
        simpa [inspect, hv, hmem, Visit.isLoose, Report.bind, Report.note, Report.done,
          Report.discard, Report.map, Except.map] using ih
    · simp [inspect, hv, Visit.isLoose, Report.fail, Report.bind, Report.discard, Report.map,
        Except.map]

private theorem events_inspect {d : Description} {vs : List Visit}
    (h : ∀ v ∈ vs, d.Declares v.shape) : (Report.each (inspect d) vs).discard.events =
      (vs.filter Visit.recurs).map Visit.event := by
  induction vs with
  | nil => rfl
  | cons v vs ih =>
    have hv := h v (by simp)
    have hrest := ih fun w hw => h w (by simp [hw])
    rw [Report.discard_each_cons, List.filter_cons]
    by_cases hmem : v.shape ∈ v.chain <;>
      simp [inspect, hv, hmem, Visit.recurs, Visit.event, Report.bind, Report.note, Report.done,
        Report.discard, Report.map, Except.map] at hrest ⊢ <;> exact hrest

/-- An expansion fails with the first loose end that it visits. -/
theorem outcome_expand_eq_error_iff {f : Failure} :
    (expand d chain name).outcome = .error f ↔
      ∃ v, (visits d chain name).find? (Visit.isLoose d) = some v ∧ f = .unknownShape v.shape := by
  rw [← Report.outcome_map_eq_error_iff (fun _ => ()), ← Report.discard, discard_expand,
    outcome_inspect]
  cases (visits d chain name).find? (Visit.isLoose d) <;> simp [eq_comm]

/-- An expansion has a result if and only if it visits no loose end. -/
theorem exists_outcome_expand_eq_ok_iff :
    (∃ e, (expand d chain name).outcome = .ok e) ↔
      ∀ v ∈ visits d chain name, d.Declares v.shape := by
  have hloose : (visits d chain name).find? (Visit.isLoose d) = none ↔
      ∀ v ∈ visits d chain name, d.Declares v.shape := by
    simp [List.find?_eq_none, Visit.isLoose]
  rw [← hloose]
  constructor
  · rintro ⟨e, he⟩
    cases hfind : (visits d chain name).find? (Visit.isLoose d) with
    | none => rfl
    | some v =>
      have herror := outcome_expand_eq_error_iff.mpr ⟨v, hfind, rfl⟩
      rw [he] at herror
      cases herror
  · intro hnone
    cases he : (expand d chain name).outcome with
    | ok e => exact ⟨e, rfl⟩
    | error f =>
      obtain ⟨v, hv, -⟩ := outcome_expand_eq_error_iff.mp he
      rw [hnone] at hv
      cases hv

/-- The events of a successful expansion are those of the recurring shapes that it visits. -/
theorem events_expand {e : Expansion} (he : (expand d chain name).outcome = .ok e) :
    (expand d chain name).events =
      ((visits d chain name).filter Visit.recurs).map Visit.event := by
  have hdeclared := exists_outcome_expand_eq_ok_iff.mp ⟨e, he⟩
  rw [← events_inspect hdeclared, ← discard_expand]
  rfl

end ApiBindings.Bindings
