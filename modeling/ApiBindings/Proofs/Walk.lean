import ApiBindings.Service.Description
import Mathlib.Logic.Relation
import Mathlib.Data.List.Induction
import Mathlib.Data.List.Nodup

/-!
# Walks through shapes

Structures refer to the shapes of their members in order, lists to that of their elements. A walk
follows these references; each step picks one by its number, so that a structure with two members
of one shape has two ways to it. Walks may come back to where they were: a loop can be cut out
without changing where a walk ends.
-/

namespace ApiBindings.Service

namespace Description

/-- Whether a name has a shape. -/
def Declares (d : Description) (name : String) : Prop := (d.shapes.find? name).isSome

instance (d : Description) (name : String) : Decidable (d.Declares name) :=
  inferInstanceAs (Decidable ((d.shapes.find? name).isSome = true))

/-- The shapes that the shape of a name refers to. -/
def referencesOf (d : Description) (name : String) : List String :=
  ((d.shapes.find? name).map Shape.references).getD []

/-- Whether the shape of one name refers to another. -/
def Refers (d : Description) (name other : String) : Prop := other ∈ d.referencesOf name

/-- A walk from one shape to another: the numbers of the references taken, and the names of the
shapes left behind. -/
inductive Walk (d : Description) : String → List Nat → List String → String → Prop
  | stay (name : String) : Walk d name [] [] name
  | step {name next last : String} {i : Nat} {position : List Nat} {passed : List String}
      (head : (d.referencesOf name)[i]? = some next) (tail : Walk d next position passed last) :
      Walk d name (i :: position) (name :: passed) last

variable {d : Description} {name next last : String} {position : List Nat} {passed : List String}

/-- An undeclared name is found nowhere. -/
theorem not_declares_iff : ¬ d.Declares name ↔ d.shapes.find? name = none := by
  simp [Declares]

/-- A declared name has a shape. -/
theorem declares_iff : d.Declares name ↔ ∃ shape, d.shapes.find? name = some shape :=
  Option.isSome_iff_exists

/-- The references of a declared name are those of its shape. -/
theorem referencesOf_eq {shape : Shape} (h : d.shapes.find? name = some shape) :
    d.referencesOf name = shape.references := by
  simp [referencesOf, h]

private theorem referencesOf_eq_nil (h : d.shapes.find? name = none) :
    d.referencesOf name = [] := by
  simp [referencesOf, h]

/-- What is found under a name refers to what that name refers to. -/
theorem refers_of_mem {shape : Shape} (h : d.shapes.find? name = some shape)
    (hnext : next ∈ shape.references) : d.Refers name next := by
  rwa [Refers, referencesOf_eq h]

/-- Whatever refers to something is declared. -/
theorem Refers.declares {other : String} (h : d.Refers name other) : d.Declares name := by
  by_contra hn
  rw [Refers, referencesOf_eq_nil (not_declares_iff.mp hn)] at h
  cases h

/-- A reference with a number is a reference. -/
theorem refers_of_getElem? {i : Nat} (h : (d.referencesOf name)[i]? = some next) :
    d.Refers name next :=
  List.mem_of_getElem? h

private theorem Refers.exists_getElem? (h : d.Refers name next) :
    ∃ i : Nat, (d.referencesOf name)[i]? = some next :=
  List.mem_iff_getElem?.mp h

namespace Walk

/-- The empty walk stays where it is. -/
theorem nil_iff : d.Walk name [] passed last ↔ passed = [] ∧ last = name := by
  constructor
  · intro h
    cases h
    exact ⟨rfl, rfl⟩
  · rintro ⟨rfl, rfl⟩
    exact .stay _

/-- A walk with a first step leaves its first shape behind. -/
theorem cons_iff {i : Nat} :
    d.Walk name (i :: position) passed last ↔
      ∃ next rest, (d.referencesOf name)[i]? = some next ∧ d.Walk next position rest last ∧
        passed = name :: rest := by
  constructor
  · intro h
    cases h with
    | step head tail => exact ⟨_, _, head, tail, rfl⟩
  · rintro ⟨next, rest, head, tail, rfl⟩
    exact .step head tail

/-- One walk after another. -/
theorem append {middle : String} {before : List String} {first : List Nat}
    (h : d.Walk name first before middle) (h' : d.Walk middle position passed last) :
    d.Walk name (first ++ position) (before ++ passed) last := by
  induction h with
  | stay => exact h'
  | step head _ ih => exact .step head (ih h')

/-- The last step of a walk. -/
theorem concat_iff {i : Nat} :
    d.Walk name (position ++ [i]) passed last ↔
      ∃ before middle, d.Walk name position before middle ∧
        (d.referencesOf middle)[i]? = some last ∧ passed = before ++ [middle] := by
  induction position generalizing name passed with
  | nil =>
    rw [List.nil_append, cons_iff]
    constructor
    · rintro ⟨next, rest, head, tail, rfl⟩
      obtain ⟨rfl, rfl⟩ := nil_iff.mp tail
      exact ⟨[], name, .stay name, head, rfl⟩
    · rintro ⟨before, middle, walk, head, rfl⟩
      obtain ⟨rfl, rfl⟩ := nil_iff.mp walk
      exact ⟨last, [], head, .stay last, rfl⟩
  | cons j position ih =>
    rw [List.cons_append, cons_iff]
    constructor
    · rintro ⟨next, rest, head, tail, rfl⟩
      obtain ⟨before, middle, walk, step, rfl⟩ := ih.mp tail
      exact ⟨name :: before, middle, .step head walk, step, rfl⟩
    · rintro ⟨before, middle, walk, step, rfl⟩
      obtain ⟨next, rest, head, tail, rfl⟩ := cons_iff.mp walk
      exact ⟨next, rest ++ [middle], head, ih.mpr ⟨rest, middle, tail, step, rfl⟩, rfl⟩

/-- Every shape that a walk leaves behind refers to another. -/
theorem exists_refers (h : d.Walk name position passed last) {x : String} (hx : x ∈ passed) :
    ∃ next, d.Refers x next := by
  induction h with
  | stay => cases hx
  | step head _ ih =>
    rcases List.mem_cons.mp hx with rfl | hx
    · exact ⟨_, refers_of_getElem? head⟩
    · exact ih hx

/-- Every shape that a walk leaves behind is declared. -/
theorem declares_of_mem (h : d.Walk name position passed last) {x : String} (hx : x ∈ passed) :
    d.Declares x := by
  obtain ⟨next, hnext⟩ := h.exists_refers hx
  exact hnext.declares

/-- From each shape that it leaves behind, a walk goes on to its end. -/
theorem exists_suffix (h : d.Walk name position passed last) {x : String} (hx : x ∈ passed) :
    ∃ position' rest, d.Walk x position' (x :: rest) last ∧ x :: rest <:+ passed := by
  induction h with
  | stay => cases hx
  | @step name next last i position passed head tail ih =>
    by_cases hname : x = name
    · subst hname
      exact ⟨i :: position, passed, .step head tail, List.suffix_rfl⟩
    · obtain ⟨position', rest, walk, hsuffix⟩ := ih ((List.mem_cons.mp hx).resolve_left hname)
      exact ⟨position', rest, walk, hsuffix.trans (List.suffix_cons _ _)⟩

/-- Without its loops a walk ends where it did, and leaves nothing more behind. -/
theorem exists_nodup (h : d.Walk name position passed last) :
    ∃ position' passed', d.Walk name position' passed' last ∧ passed'.Nodup ∧
      ∀ x ∈ passed', x ∈ passed := by
  induction h with
  | stay name => exact ⟨[], [], .stay name, .nil, by simp⟩
  | @step name next last i position passed head tail ih =>
    obtain ⟨position', passed', walk, hnodup, hsub⟩ := ih
    by_cases hname : name ∈ passed'
    · -- The rest comes back to `name`: what lies before its last visit is a loop.
      obtain ⟨position'', rest, walk', hsuffix⟩ := walk.exists_suffix hname
      refine ⟨position'', name :: rest, walk', hnodup.sublist hsuffix.sublist, ?_⟩
      intro x hx
      exact List.mem_cons_of_mem _ (hsub x (hsuffix.subset hx))
    · refine ⟨i :: position', name :: passed', .step head walk, hnodup.cons hname, ?_⟩
      intro x hx
      rcases List.mem_cons.mp hx with rfl | hx
      · exact List.mem_cons_self
      · exact List.mem_cons_of_mem _ (hsub x hx)

/-- A walk follows references. -/
theorem reflTransGen (h : d.Walk name position passed last) :
    Relation.ReflTransGen d.Refers name last := by
  induction h with
  | stay => exact .refl
  | step head _ ih => exact .head (refers_of_getElem? head) ih

/-- A walk that leaves its first shape follows at least one reference. -/
theorem transGen (h : d.Walk name position (next :: passed) last) :
    Relation.TransGen d.Refers name last := by
  cases h with
  | step head tail => exact .head' (refers_of_getElem? head) tail.reflTransGen

end Walk

/-- What references lead to is at the end of a walk. -/
theorem exists_walk (h : Relation.ReflTransGen d.Refers name last) :
    ∃ position passed, d.Walk name position passed last := by
  induction h using Relation.ReflTransGen.head_induction_on with
  | refl => exact ⟨[], [], .stay last⟩
  | head first _ ih =>
    obtain ⟨i, hi⟩ := first.exists_getElem?
    obtain ⟨position, passed, walk⟩ := ih
    exact ⟨i :: position, _ :: passed, .step hi walk⟩

private theorem exists_walk_cons (h : Relation.TransGen d.Refers name last) :
    ∃ position passed, d.Walk name position (name :: passed) last := by
  obtain ⟨next, first, rest⟩ := Relation.TransGen.head'_iff.mp h
  obtain ⟨i, hi⟩ := first.exists_getElem?
  obtain ⟨position, passed, walk⟩ := exists_walk rest
  exact ⟨i :: position, passed, .step hi walk⟩

/-- Names that refer to each other only hold all that references lead to from them. -/
theorem mem_of_reflTransGen {names : List String}
    (hclosed : ∀ x ∈ names, ∀ y ∈ d.referencesOf x, y ∈ names) (hname : name ∈ names)
    (h : Relation.ReflTransGen d.Refers name last) : last ∈ names := by
  induction h with
  | refl => exact hname
  | tail _ hstep ih => exact hclosed _ ih _ hstep

/-- A cycle is in reach if and only if some walk comes back to a shape that it left, without having
come back before. -/
theorem exists_cycle_iff {root : String} :
    (∃ v, Relation.ReflTransGen d.Refers root v ∧ Relation.TransGen d.Refers v v) ↔
      ∃ position chain v, d.Walk root position chain v ∧ chain.Nodup ∧ v ∈ chain := by
  constructor
  · rintro ⟨v, hreach, hcycle⟩
    by_contra hnone
    have hsimple : ∀ position chain v, d.Walk root position chain v →
        chain.Nodup ∧ v ∉ chain := by
      intro position
      induction position using List.reverseRecOn with
      | nil =>
        intro chain v walk
        obtain ⟨rfl, rfl⟩ := Walk.nil_iff.mp walk
        simp
      | append_singleton position i ih =>
        intro chain v walk
        obtain ⟨before, middle, walk', -, rfl⟩ := Walk.concat_iff.mp walk
        obtain ⟨hnodup, hmiddle⟩ := ih before middle walk'
        have hchain : (before ++ [middle]).Nodup := hnodup.append (List.nodup_singleton _)
          (by simpa using hmiddle)
        refine ⟨hchain, ?_⟩
        intro hmem
        exact hnone ⟨_, _, _, walk, hchain, hmem⟩
    obtain ⟨position, chain, walk⟩ := exists_walk hreach
    obtain ⟨position', rest, walk'⟩ := exists_walk_cons hcycle
    exact (hsimple _ _ _ (walk.append walk')).2 (by simp)
  · rintro ⟨position, chain, v, walk, -, hmem⟩
    obtain ⟨position', rest, walk', -⟩ := walk.exists_suffix hmem
    exact ⟨v, walk.reflTransGen, walk'.transGen⟩

end Description

end ApiBindings.Service
