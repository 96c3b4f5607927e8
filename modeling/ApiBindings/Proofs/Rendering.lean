import ApiBindings.Bindings.Argument
import ApiBindings.Proofs.Descent

/-!
# The text of an expansion

Rendering is expansion followed by a choice of text, apart from the one refusal at the top. The
text of a nested expansion has a place of its own for every expansion inside.
-/

namespace ApiBindings.Bindings

open Service

variable {d : Description} {docs : Formatter} {indent : String} {chain : List String}
  {name : String}

/-- The arguments that the expanded members of a structure are. -/
def argumentsFrom (docs : Formatter) (s : Structure)
    (members : List (String × Bool × Expansion)) : List Argument :=
  List.zipWith (fun member shown =>
    { name := shown.1
      value := shown.2.2.layout indentUnit
      required := shown.2.1
      documentation := docs.embedded? member.2.documentation }) s.members.entries members

/-- The text that an expansion is shown as: an argument block for an expanded structure without an
indent, else a literal expression. -/
def Expansion.shown (d : Description) (docs : Formatter) (indent name : String)
    (e : Expansion) : String :=
  match indent.isEmpty, d.shapes.find? name, e with
  | true, some (.struct s), .struct members => argumentsText (argumentsFrom docs s members)
  | _, _, e => e.layout indent

/-- A shape that cannot be shown without an indent: a new one that is no structure. -/
structure Refused (d : Description) (indent : String) (chain : List String) (name : String)
    (shape : Shape) : Prop where
  unindented : indent = ""
  found : d.shapes.find? name = some shape
  new : name ∉ chain
  flat : shape.structure? = none

/-- A refused shape is named with its kind. -/
theorem render_refused {shape : Shape} (h : Refused d indent chain name shape) :
    render d docs indent chain name = .fail (.notStructure name shape.kind) := by
  obtain ⟨rfl, hfound, hnew, hflat⟩ := h
  rw [render, if_pos (by rfl), argumentBlock, hfound]
  have hcontains : chain.contains name = false := by simpa using hnew
  simp only [hcontains, Bool.false_eq_true, if_false]
  cases shape <;> first | rfl | cases hflat

/-- A word is shown as it is. -/
theorem Expansion.shown_word (text : String) : (word text).shown d docs indent name = text := by
  simp [Expansion.shown, Expansion.layout]

private theorem shown_of_indent (hindent : indent.isEmpty = false) (e : Expansion) :
    e.shown d docs indent name = e.layout indent := by
  simp [Expansion.shown, hindent]

private theorem argumentBlock_struct {s : Structure}
    (hfound : d.shapes.find? name = some (.struct s)) (hnew : name ∉ chain) :
    argumentBlock d docs chain name =
      (expand d chain name).map (Expansion.shown d docs "" name) := by
  have hcontains : chain.contains name = false := by simpa using hnew
  rw [argumentBlock, hfound]
  simp only [hcontains, Bool.false_eq_true, if_false]
  rw [expand_new hfound hnew, expandShape, Report.map_map]
  have hempty : ("" : String).isEmpty = true := rfl
  simp only [Expansion.shown, hfound, hempty]
  rw [← Report.map_map (argumentsFrom docs s) argumentsText]
  congr 1
  unfold argumentsFrom argumentsOf
  rw [← Report.each_zipWith]
  simp only [Report.map_map]

/-- What is not refused is shown as its expansion. -/
theorem render_eq_map_shown (h : ∀ shape, ¬ Refused d indent chain name shape) :
    render d docs indent chain name =
      (expand d chain name).map (Expansion.shown d docs indent name) := by
  rw [render]
  cases hindent : indent.isEmpty with
  | false =>
    simp only [Bool.false_eq_true, if_false]
    congr 1
    funext e
    rw [shown_of_indent hindent]
  | true =>
    have hempty : indent = "" := String.isEmpty_iff.mp hindent
    subst hempty
    rw [if_pos rfl]
    cases hfound : d.shapes.find? name with
    | none =>
      rw [argumentBlock, hfound, expand_undeclared hfound]
      rfl
    | some shape =>
      by_cases hmem : name ∈ chain
      · rw [argumentBlock, hfound, expand_recurring hfound hmem, Report.map_map]
        simp only [List.contains_iff_mem.mpr hmem, if_true]
        simp only [Expansion.shown_word]
      · cases hs : shape.structure? with
        | none => exact absurd ⟨rfl, hfound, hmem, hs⟩ (h shape)
        | some s =>
          cases shape with
          | struct s => exact argumentBlock_struct hfound hmem
          | _ => cases hs

/-! ### Places in a text -/

namespace Expansion

/-- The expansion at a position inside another one. -/
def at? : Expansion → List Nat → Option Expansion
  | e, [] => some e
  | e, i :: position => e.children[i]?.bind (at? · position)

/-- Puts an expansion at a position inside another one. -/
def put : Expansion → List Nat → Expansion → Expansion
  | _, [], x => x
  | list element, 0 :: position, x => list (element.put position x)
  | struct members, i :: position, x =>
    struct (members.modify i fun member => (member.1, member.2.1, member.2.2.put position x))
  | e, _ :: _, _ => e

/-- The text of a member with that of its value. -/
def memberText (name : String) (required : Bool) (value : String) : String :=
  "\"" ++ name ++ "\" => " ++ (if required then requiredMark else "") ++ value

/-- Members are laid out one by one. -/
theorem memberTexts_eq_map (indent : String) (members : List (String × Bool × Expansion)) :
    memberTexts indent members =
      members.map fun member => memberText member.1 member.2.1 (member.2.2.layout indent) := by
  induction members with
  | nil => rfl
  | cons member members ih =>
    obtain ⟨name, required, value⟩ := member
    rw [memberTexts, ih]
    rfl

end Expansion

/-- Words among others have a place in what is joined: what stands around them is the same whatever
they are. -/
theorem exists_intercalate_eq (separator : String) (before after : List String) :
    ∃ front back, ∀ middle ≠ [], separator.intercalate (before ++ middle ++ after) =
      front ++ separator.intercalate middle ++ back := by
  obtain ⟨front, hfront⟩ : ∃ front, ∀ middle ≠ [], separator.intercalate (before ++ middle) =
      front ++ separator.intercalate middle := by
    by_cases hbefore : before = []
    · exact ⟨"", by simp [hbefore]⟩
    · exact ⟨_, fun middle => String.intercalate_append_of_ne_nil hbefore⟩
  by_cases hafter : after = []
  · exact ⟨front, "", by simpa [hafter] using hfront⟩
  · refine ⟨front, separator ++ separator.intercalate after, fun middle hmiddle => ?_⟩
    rw [String.intercalate_append_of_ne_nil (by simp [hmiddle]) hafter, hfront middle hmiddle]
    simp only [String.append_assoc]

private theorem bracketed_place (indent : String) (before after : List String) :
    ∃ front back, ∀ text, bracketed indent (before ++ text :: after) = front ++ text ++ back := by
  by_cases hlone : before = [] ∧ after = []
  · obtain ⟨rfl, rfl⟩ := hlone
    exact ⟨"[", "]", fun _ => rfl⟩
  · obtain ⟨front, back, hplace⟩ := exists_intercalate_eq (",\n" ++ indent) before after
    refine ⟨"[\n" ++ indent ++ front, back ++ "\n" ++ outdent indent ++ "]", fun text => ?_⟩
    have hseveral : bracketed indent (before ++ text :: after) = "[\n" ++ indent ++
        (",\n" ++ indent).intercalate (before ++ text :: after) ++ "\n" ++ outdent indent ++
        "]" := by
      cases before with
      | nil =>
        cases after with
        | nil => exact absurd ⟨rfl, rfl⟩ hlone
        | cons => rfl
      | cons first before => cases before <;> rfl
    rw [hseveral, List.append_cons, hplace [text] (List.cons_ne_nil _ _),
      String.intercalate_singleton]
    simp only [String.append_assoc]

/-- Every expansion inside another one has a place in its text: what stands around it is the same
whatever is put there. -/
theorem exists_place {e sub : Expansion} {position : List Nat} (indent : String)
    (h : e.at? position = some sub) :
    ∃ front inner back, ∀ x, (e.put position x).layout indent =
      front ++ x.layout inner ++ back := by
  induction position generalizing e indent with
  | nil => exact ⟨"", indent, "", fun x => by simp [Expansion.put]⟩
  | cons i position ih =>
    obtain ⟨child, hchild, hsub⟩ := Option.bind_eq_some_iff.mp h
    cases e with
    | word => cases hchild
    | values => cases hchild
    | list element =>
      cases i with
      | succ i => cases hchild
      | zero =>
        cases hchild
        obtain ⟨front, inner, back, hplace⟩ := ih indent hsub
        refine ⟨"[" ++ front, inner, back ++ ", ...]", fun x => ?_⟩
        rw [Expansion.put, Expansion.layout, hplace]
        simp only [String.append_assoc]
    | struct members =>
      rw [Expansion.children, List.getElem?_map, Option.map_eq_some_iff] at hchild
      obtain ⟨⟨name, required, value⟩, hmember, rfl⟩ := hchild
      obtain ⟨front, inner, back, hplace⟩ := ih (indent ++ indentUnit) hsub
      obtain ⟨hi, hmember⟩ := List.getElem?_eq_some_iff.mp hmember
      obtain ⟨front', back', hplace'⟩ := bracketed_place indent
        (Expansion.memberTexts (indent ++ indentUnit) (members.take i))
        (Expansion.memberTexts (indent ++ indentUnit) (members.drop (i + 1)))
      refine ⟨front' ++ Expansion.memberText name required front, inner, back ++ back',
        fun x => ?_⟩
      rw [Expansion.put, Expansion.layout, List.modify_eq_take_cons_drop hi, hmember,
        Expansion.memberTexts_eq_map, List.map_append, List.map_cons,
        ← Expansion.memberTexts_eq_map, ← Expansion.memberTexts_eq_map, hplace', hplace]
      simp only [Expansion.memberText, String.append_assoc]

/-- Putting an expansion where it is changes nothing. -/
theorem put_of_at? {e sub : Expansion} {position : List Nat} (h : e.at? position = some sub) :
    e.put position sub = e := by
  induction position generalizing e with
  | nil =>
    cases h
    rfl
  | cons i position ih =>
    obtain ⟨child, hchild, hsub⟩ := Option.bind_eq_some_iff.mp h
    cases e with
    | word => cases hchild
    | values => cases hchild
    | list element =>
      cases i with
      | succ i => cases hchild
      | zero =>
        cases hchild
        rw [Expansion.put, ih hsub]
    | struct members =>
      rw [Expansion.children, List.getElem?_map, Option.map_eq_some_iff] at hchild
      obtain ⟨⟨name, required, value⟩, hmember, rfl⟩ := hchild
      obtain ⟨hi, hmember⟩ := List.getElem?_eq_some_iff.mp hmember
      rw [Expansion.put, List.modify_eq_take_cons_drop hi, hmember, ih hsub, ← hmember,
        List.getElem_cons_drop, List.take_append_drop]

end ApiBindings.Bindings
