import ApiBindings.Proofs.Legible

/-!
# The texts in an expansion

An expansion holds texts of its service: names that members are shown under, enumerated values and
tags. Besides these it holds the fixed words for types and kinds. So what all texts of a service
have in common, its expansions have too. The indents of a layout are whole levels of spaces.
-/

namespace ApiBindings.Bindings

open Service

/-! ### Texts of a service -/

/-- A text without any of the given characters. -/
def Lacks (cs : List Char) (text : String) : Prop := ∀ c ∈ cs, c ∉ text.toList

-- not by instance search, which may look through all characters there are
instance (cs : List Char) : DecidablePred (Lacks cs) := fun text =>
  decidable_of_iff (cs.all fun c => !text.toList.contains c) (by simp [Lacks])

/-- Whether the texts of a shape have a property: the names that its members are shown under, its
enumerated values, or its tag. -/
def WordedShape (p : String → Prop) (m : Metadata) : Shape → Prop
  | .struct s => ∀ member ∈ s.members.entries, p (displayName m member.1 member.2)
  | .string values => ∀ v ∈ values, p v
  | .other tag => p tag
  | _ => True

instance (p : String → Prop) [DecidablePred p] (m : Metadata) : DecidablePred (WordedShape p m)
  | .struct s =>
    inferInstanceAs (Decidable (∀ member ∈ s.members.entries, p (displayName m member.1 member.2)))
  | .string values => inferInstanceAs (Decidable (∀ v ∈ values, p v))
  | .other tag => inferInstanceAs (Decidable (p tag))
  | .list _ | .map | .integer | .long | .boolean => .isTrue trivial

/-- Whether the texts of all shapes of a service have a property. -/
def Worded (p : String → Prop) (d : Description) : Prop :=
  ∀ entry ∈ d.shapes.entries, WordedShape p d.metadata entry.2

instance (p : String → Prop) [DecidablePred p] : DecidablePred (Worded p) := fun d =>
  inferInstanceAs (Decidable (∀ entry ∈ d.shapes.entries, WordedShape p d.metadata entry.2))

/-- The texts of a shape that is found have the property. -/
theorem Worded.shape {p : String → Prop} {d : Description} (hd : Worded p d) {name : String}
    {shape : Shape} (hfound : d.shapes.find? name = some shape) :
    WordedShape p d.metadata shape :=
  hd (name, shape) (NameTable.mem_entries_of_find? hfound)

/-! ### Texts of an expansion -/

/-- The kinds of shapes that have a treatment of their own. -/
def kinds : List String := ["structure", "list", "map", "string", "integer", "long", "boolean"]

namespace Expansion

/-- Whether all texts in an expansion have a property. -/
inductive HasTexts (p : String → Prop) : Expansion → Prop
  | word {text : String} (h : p text) : HasTexts p (word text)
  | values {texts : List String} (h : ∀ v ∈ texts, p v) : HasTexts p (values texts)
  | list {element : Expansion} (h : HasTexts p element) : HasTexts p (list element)
  | struct {members : List (String × Bool × Expansion)} (hname : ∀ m ∈ members, p m.1)
      (h : ∀ m ∈ members, HasTexts p m.2.2) : HasTexts p (struct members)

end Expansion

open Expansion (HasTexts annotations)

/-- What all texts of a service and all fixed words have in common, the texts in its expansions
have too. -/
theorem hasTexts_of_expand {p : String → Prop} (hfixed : ∀ word ∈ annotations ++ kinds, p word)
    {d : Description} (hd : Worded p d) {chain : List String} {name : String} {e : Expansion}
    (h : (expand d chain name).outcome = .ok e) : e.HasTexts p := by
  induction chain, name using descent_induction (d := d) generalizing e with
  | undeclared chain name hfound =>
    rw [expand_undeclared hfound] at h
    cases h
  | recurring chain name shape hfound hmem =>
    rw [expand_recurring hfound hmem] at h
    cases h
    cases shape with
    | other tag => exact .word (hd.shape hfound)
    | _ => exact .word (hfixed _ (by simp [kinds, Shape.kind]))
  | new chain name shape hfound hnew ih =>
    rw [expand_new hfound hnew, outcome_expandShape_eq_ok_iff] at h
    obtain ⟨hshows, hchildren⟩ := h
    have hinside : ∀ child ∈ e.children, child.HasTexts p := by
      intro child hchild
      obtain ⟨next, hnext, hexpand⟩ := exists_of_mem_right hchildren hchild
      exact ih next hnext hexpand
    cases shape with
    | struct s =>
      obtain ⟨members, rfl, hmembers⟩ := hshows
      refine .struct (fun m hm => ?_) (fun m hm => hinside _ (List.mem_map_of_mem hm))
      obtain ⟨member, hmember, hshown⟩ := List.mem_map.mp (hmembers ▸ List.mem_map_of_mem hm)
      rw [← congrArg Prod.fst hshown]
      exact hd.shape hfound member hmember
    | list element =>
      obtain ⟨child, rfl⟩ := hshows
      exact .list (hinside child List.mem_cons_self)
    | string texts =>
      change e = _ at hshows
      subst hshows
      cases texts with
      | nil => exact .word (hfixed _ (by simp [annotations]))
      | cons v rest => exact .values (hd.shape hfound)
    | other kind =>
      cases hshows
      exact .word (hd.shape hfound)
    | map | integer | long | boolean =>
      cases hshows
      exact .word (hfixed _ (by simp [annotations]))

/-! ### Texts of layouts -/

/-- The characters that stand around the texts in values and in front of a member's value. -/
def fillers : String := "\", or => <required> "

/-- Two texts without some characters have none of them in a row. -/
theorem Lacks.append {cs : List Char} {a b : String} (ha : Lacks cs a) (hb : Lacks cs b) :
    Lacks cs (a ++ b) := by
  intro c hc hmem
  rw [String.toList_append, List.mem_append] at hmem
  exact hmem.elim (ha c hc) (hb c hc)

private theorem lacks_of_fillers {cs : List Char} (hcs : Lacks cs fillers) {text : String}
    (h : text.toList ⊆ fillers.toList) : Lacks cs text :=
  fun c hc hmem => hcs c hc (h hmem)

private theorem lacks_joinOr {cs : List Char} (hcs : Lacks cs fillers) {words : List String}
    (h : ∀ w ∈ words, Lacks cs w) : Lacks cs (Text.joinOr words) := by
  have hor : Lacks cs " or " := lacks_of_fillers hcs (by decide)
  have hcomma : Lacks cs ", " := lacks_of_fillers hcs (by decide)
  induction words using Text.joinOr.induct with
  | case1 => exact fun c _ hmem => by cases hmem
  | case2 only => exact h only (by simp)
  | case3 first last => exact ((h first (by simp)).append hor).append (h last (by simp))
  | case4 word rest hsingle hpair ih =>
    rw [Text.joinOr]
    · exact ((h word (by simp)).append hcomma).append (ih fun w hw => h w (.tail _ hw))
    · exact hsingle
    · exact hpair

namespace Expansion

/-- The text of values has the characters of the values and fillers. -/
theorem lacks_layout_values {cs : List Char} (hcs : Lacks cs fillers)
    {texts : List String} (h : ∀ v ∈ texts, Lacks cs v) (indent : String) :
    Lacks cs ((values texts).layout indent) := by
  have hquote : Lacks cs "\"" := lacks_of_fillers hcs (by decide)
  rw [layout]
  apply lacks_joinOr hcs
  intro w hw
  obtain ⟨v, hv, rfl⟩ := List.mem_map.mp hw
  exact (hquote.append (h v hv)).append hquote

/-- What stands in front of a member's value. -/
def memberOpening (name : String) (required : Bool) : String := memberText name required ""

/-- A member is its value behind the opening. -/
theorem memberText_eq (name : String) (required : Bool) (value : String) :
    memberText name required value = memberOpening name required ++ value := by
  simp [memberOpening, memberText, String.append_assoc]

/-- What stands in front of a member's value has the characters of its name and fillers. -/
theorem lacks_memberOpening {cs : List Char} (hcs : Lacks cs fillers) {name : String}
    (h : Lacks cs name) (required : Bool) : Lacks cs (memberOpening name required) := by
  have hquote : Lacks cs "\"" := lacks_of_fillers hcs (by decide)
  have harrow : Lacks cs "\" => " := lacks_of_fillers hcs (by decide)
  have hmark : Lacks cs (if required then requiredMark else "") := by
    apply lacks_of_fillers hcs
    cases required <;> decide
  rw [memberOpening, memberText, String.append_empty]
  exact ((hquote.append h).append harrow).append hmark

end Expansion

/-! ### Levels -/

/-- A level is four spaces. -/
theorem toList_levels (n : Nat) : (levels n).toList = List.replicate (4 * n) ' ' := by
  induction n with
  | zero => rfl
  | succ n ih =>
    have hunit : indentUnit.toList = List.replicate 4 ' ' := rfl
    rw [levels, List.replicate_succ, String.join_cons, ← levels, String.toList_append, ih, hunit,
      List.replicate_append_replicate, Nat.mul_succ, Nat.add_comm]

/-- Levels have no other characters. -/
theorem lacks_levels {cs : List Char} (hcs : ' ' ∉ cs) (n : Nat) : Lacks cs (levels n) := by
  intro c hc hmem
  rw [toList_levels] at hmem
  obtain rfl := List.eq_of_mem_replicate hmem
  exact hcs hc

/-- One more level may be put in front. -/
theorem indentUnit_append_levels (n : Nat) : indentUnit ++ levels n = levels (n + 1) := by
  rw [levels, levels, List.replicate_succ, String.join_cons]

/-- One more level may be put behind. -/
theorem levels_append_indentUnit (n : Nat) : levels n ++ indentUnit = levels (n + 1) := by
  have hunit : indentUnit.toList = List.replicate 4 ' ' := rfl
  rw [← String.toList_inj, String.toList_append, toList_levels, toList_levels, hunit,
    List.replicate_append_replicate, Nat.mul_succ]

/-- The last level may be taken away. -/
theorem outdent_levels (n : Nat) : outdent (levels (n + 1)) = levels n := by
  rw [← levels_append_indentUnit, outdent, String.toList_append,
    if_pos (List.isSuffixOf_iff_suffix.mpr (List.suffix_append _ _)), String.length_append,
    Nat.add_sub_cancel, ← String.length_toList, List.take_left, String.ofList_toList]

/-- Below one level or more, rendering shows an expansion as a literal expression. -/
theorem render_levels {d : Description} {docs : Formatter} (n : Nat) (chain : List String)
    (name : String) :
    render d docs (levels (n + 1)) chain name =
      (expand d chain name).map (Expansion.layout (levels (n + 1))) := by
  have hindent : (levels (n + 1)).isEmpty = false := by
    rw [← indentUnit_append_levels]
    simp [indentUnit]
  rw [render, hindent]
  rfl

end ApiBindings.Bindings
