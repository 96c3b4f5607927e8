import ApiBindings.Proofs.Wording

/-!
# Indentation of layouts

How far the lines of a layout are indented. One level further in, a layout is the same text with one
level more behind each line break. And each line that follows a line break is indented by one level
for each bracket of a structure that is open there, where a bracket that closes at the start of the
line counts as closed; the brackets of lists do not count.

A text does not tell which of its brackets belong to structures, so the layout is made a second time
of glyphs that do. The texts in an expansion must not break lines.
-/

namespace ApiBindings.Bindings

open Service

/-! ### One level further in -/

/-- Characters with one level of indent behind each line break. -/
def deepenChars (s : List Char) : List Char :=
  s.flatMap fun c => if c = '\n' then '\n' :: indentUnit.toList else [c]

/-- A text with one level of indent behind each line break. -/
def deepen (text : String) : String := String.ofList (deepenChars text.toList)

/-- Two texts in a row are deepened one after the other. -/
theorem deepen_append (a b : String) : deepen (a ++ b) = deepen a ++ deepen b := by
  rw [deepen, deepen, deepen, String.toList_append, deepenChars, List.flatMap_append,
    String.ofList_append]
  rfl

private theorem deepen_of_lacks {text : String} (h : Lacks ['\n'] text) : deepen text = text := by
  have hbreak : '\n' ∉ text.toList := h '\n' (by simp)
  have hchars : ∀ s : List Char, '\n' ∉ s → deepenChars s = s := by
    intro s hs
    induction s with
    | nil => rfl
    | cons c s ih =>
      simp only [List.mem_cons, not_or] at hs
      rw [deepenChars, List.flatMap_cons, if_neg (Ne.symm hs.1), ← deepenChars, ih hs.2]
      rfl
  rw [deepen, hchars _ hbreak, String.ofList_toList]

private theorem deepen_intercalate (separator : String) (texts : List String) :
    deepen (separator.intercalate texts) = (deepen separator).intercalate (texts.map deepen) := by
  induction texts with
  | nil => rfl
  | cons text texts ih =>
    cases texts with
    | nil => simp
    | cons next texts =>
      rw [String.intercalate_cons_cons, deepen_append, deepen_append, ih]
      simp only [List.map_cons, String.intercalate_cons_cons]

private theorem deepen_bracketed (n : Nat) (texts : List String) :
    deepen (bracketed (levels (n + 1)) texts) = bracketed (levels (n + 2)) (texts.map deepen) := by
  have hlevels (a : String) (n : Nat) : a ++ indentUnit ++ levels n = a ++ levels (n + 1) := by
    rw [String.append_assoc, indentUnit_append_levels]
  have hopening : deepen "[\n" = "[\n" ++ indentUnit := by decide
  have hseparator : deepen ",\n" = ",\n" ++ indentUnit := by decide
  have hbreak : deepen "\n" = "\n" ++ indentUnit := by decide
  have hopen : deepen "[" = "[" := by decide
  have hclose : deepen "]" = "]" := by decide
  match texts with
  | [] => exact (by decide : deepen "[]" = "[]")
  | [only] => simp only [bracketed, List.map_cons, List.map_nil, deepen_append, hopen, hclose]
  | first :: second :: rest =>
    simp only [List.map_cons, bracketed, outdent_levels, deepen_append, deepen_intercalate,
      deepen_of_lacks (lacks_levels (by decide) _), hopening, hseparator, hbreak, hclose,
      ← String.append_assoc, hlevels]

/-- An expansion that is laid out one level further in has one level more behind each line break. -/
theorem layout_levels_succ {e : Expansion} (h : e.HasTexts (Lacks ['\n'])) (n : Nat) :
    e.layout (levels (n + 2)) = deepen (e.layout (levels (n + 1))) := by
  induction h generalizing n with
  | word htext => exact (deepen_of_lacks htext).symm
  | values htexts =>
    exact (deepen_of_lacks (Expansion.lacks_layout_values (by decide) htexts _)).symm
  | list _ ih =>
    have hopen : deepen "[" = "[" := by decide
    have hrest : deepen ", ...]" = ", ...]" := by decide
    rw [Expansion.layout, Expansion.layout, ih, deepen_append, deepen_append, hopen, hrest]
  | @struct members hname _ ih =>
    rw [Expansion.layout_struct, Expansion.layout_struct, deepen_bracketed, List.map_map]
    refine congrArg (bracketed _) (List.map_congr_left fun m hm => ?_)
    have hopening := Expansion.lacks_memberOpening (by decide) (hname m hm) m.2.1
    simp only [Function.comp_apply, Expansion.entryText, Expansion.memberText_eq, deepen_append,
      deepen_of_lacks hopening, levels_append_indentUnit, ih m hm]

/-! ### Brackets of structures -/

/-- Whose bracket it is. -/
inductive Owner where
  | list
  | struct
  deriving DecidableEq, Repr

/-- A character of a layout: one of a text or of what stands between texts, or a bracket. -/
inductive Glyph where
  | plain (c : Char)
  | opening (owner : Owner)
  | closing (owner : Owner)
  deriving DecidableEq, Repr

namespace Glyph

/-- The character that a glyph is. -/
def char : Glyph → Char
  | plain c => c
  | opening _ => '['
  | closing _ => ']'

/-- The glyphs of a text without brackets of its own. -/
def ofText (text : String) : List Glyph := text.toList.map plain

/-- How many brackets of structures are open behind a glyph, by their number in front of it. -/
def openAfter (n : Nat) : Glyph → Nat
  | opening .struct => n + 1
  | closing .struct => n - 1
  | _ => n

/-- Members between brackets, as glyphs. -/
def bracketed (indent : String) : List (List Glyph) → List Glyph
  | [] => [opening .struct, closing .struct]
  | [only] => opening .struct :: (only ++ [closing .struct])
  | first :: rest =>
    opening .struct :: (ofText ("\n" ++ indent) ++ first ++
      (rest.flatMap fun member => ofText (",\n" ++ indent) ++ member) ++
      ofText ("\n" ++ outdent indent) ++ [closing .struct])

end Glyph

namespace Expansion

mutual

/-- The layout of an expansion as glyphs. -/
def glyphs (indent : String) : Expansion → List Glyph
  | word text => Glyph.ofText text
  | values texts => Glyph.ofText ((values texts).layout indent)
  | list element =>
    .opening .list :: (element.glyphs indent ++ Glyph.ofText ", ..." ++ [.closing .list])
  | struct members => Glyph.bracketed indent (memberGlyphs (indent ++ indentUnit) members)

/-- The members of a structure as glyphs. -/
def memberGlyphs (indent : String) : List (String × Bool × Expansion) → List (List Glyph)
  | [] => []
  | (name, required, value) :: rest =>
    (Glyph.ofText (memberOpening name required) ++ value.glyphs indent) ::
      memberGlyphs indent rest

end

/-- The glyphs of a member of a structure that is laid out at the given indent. -/
def entryGlyphs (indent : String) (m : String × Bool × Expansion) : List Glyph :=
  Glyph.ofText (memberOpening m.1 m.2.1) ++ m.2.2.glyphs (indent ++ indentUnit)

private theorem glyphs_struct (indent : String) (members : List (String × Bool × Expansion)) :
    (struct members).glyphs indent = Glyph.bracketed indent (members.map (entryGlyphs indent)) := by
  have hmembers : ∀ members : List (String × Bool × Expansion),
      memberGlyphs (indent ++ indentUnit) members = members.map (entryGlyphs indent) := by
    intro members
    induction members with
    | nil => rfl
    | cons m members ih =>
      obtain ⟨name, required, value⟩ := m
      rw [memberGlyphs, ih]
      rfl
  rw [glyphs, hmembers]

end Expansion

/-! ### Glyphs are characters -/

private theorem toList_intercalate_cons (separator first : String) (rest : List String) :
    (separator.intercalate (first :: rest)).toList =
      first.toList ++ rest.flatMap fun text => separator.toList ++ text.toList := by
  induction rest generalizing first with
  | nil => simp
  | cons next rest ih =>
    rw [String.intercalate_cons_cons, String.toList_append, String.toList_append, ih,
      List.flatMap_cons, List.append_assoc, List.append_assoc]

namespace Glyph

private theorem map_char_ofText (text : String) : (ofText text).map char = text.toList := by
  rw [ofText, List.map_map]
  exact List.map_id _

private theorem ofText_append (a b : String) : ofText (a ++ b) = ofText a ++ ofText b := by
  rw [ofText, String.toList_append, List.map_append]
  rfl

private theorem ofText_lineBreak (text : String) :
    ofText ("\n" ++ text) = .plain '\n' :: ofText text := by
  rw [ofText_append]
  rfl

private theorem map_char_bracketed {α : Type} (indent : String) {glyphs : α → List Glyph}
    {text : α → String} {members : List α}
    (h : ∀ m ∈ members, (glyphs m).map char = (text m).toList) :
    (bracketed indent (members.map glyphs)).map char =
      (Bindings.bracketed indent (members.map text)).toList := by
  match members with
  | [] => simp [bracketed, Bindings.bracketed, char]
  | [only] => simp [bracketed, Bindings.bracketed, h only List.mem_cons_self, char]
  | first :: second :: rest =>
    have hothers : ∀ others : List α, (∀ m ∈ others, m ∈ first :: second :: rest) →
        ((others.map glyphs).flatMap fun m => ofText (",\n" ++ indent) ++ m).map char =
          (others.map text).flatMap fun t => (",\n" ++ indent).toList ++ t.toList := by
      intro others hmem
      induction others with
      | nil => rfl
      | cons m others ih =>
        rw [List.map_cons, List.map_cons, List.flatMap_cons, List.flatMap_cons, List.map_append,
          List.map_append, map_char_ofText, h m (hmem m (by simp)),
          ih fun n hn => hmem n (by simp [hn])]
    have hrest := hothers (second :: rest) fun m hm => .tail _ hm
    simp only [List.map_cons] at hrest
    simp only [List.map_cons, bracketed, Bindings.bracketed, List.map_append, hrest,
      map_char_ofText, h first List.mem_cons_self, String.toList_append, toList_intercalate_cons]
    simp [char]

end Glyph

/-- The glyphs of an expansion are the characters of its layout. -/
theorem Expansion.map_char_glyphs {p : String → Prop} {e : Expansion} (h : e.HasTexts p)
    (indent : String) : (e.glyphs indent).map Glyph.char = (e.layout indent).toList := by
  induction h generalizing indent with
  | word _ => exact Glyph.map_char_ofText _
  | values _ => exact Glyph.map_char_ofText _
  | list _ ih => simp [glyphs, layout, Glyph.map_char_ofText, ih, Glyph.char]
  | struct _ _ ih =>
    rw [glyphs_struct, layout_struct]
    apply Glyph.map_char_bracketed
    intro m hm
    rw [entryGlyphs, entryText, memberText_eq, List.map_append, Glyph.map_char_ofText, ih m hm,
      String.toList_append]

/-! ### Lines -/

open Glyph (openAfter ofText)

/-- How many brackets of structures are open behind glyphs, by their number in front of them. -/
def openBehind (n : Nat) (gs : List Glyph) : Nat := gs.foldl openAfter n

/-- Whether a line starts with its indent: beyond the base a level for each bracket that is open in
front of its first character that is no space, the one that this character closes not counted. -/
def StartsLine (base n : Nat) (line : List Glyph) : Prop :=
  ∃ g rest, line = ofText (levels (base + if g.char = ']' then n - 1 else n)) ++ g :: rest ∧
    g.char ≠ ' ' ∧ g.char ≠ '\n'

/-- Whether what follows each line break starts with its indent. So many brackets are open in front
of the glyphs. -/
def LinesIndented (base n : Nat) (gs : List Glyph) : Prop :=
  ∀ before after, gs = before ++ .plain '\n' :: after → StartsLine base (openBehind n before) after

section Lines

variable {base n : Nat} {g : Glyph} {gs gs' : List Glyph}

private theorem openBehind_append (n : Nat) (gs gs' : List Glyph) :
    openBehind n (gs ++ gs') = openBehind (openBehind n gs) gs' :=
  List.foldl_append

private theorem openBehind_ofText (n : Nat) (text : String) : openBehind n (ofText text) = n := by
  rw [openBehind, ofText, List.foldl_map]
  exact List.foldl_fixed _

/-- A line may go on. -/
theorem StartsLine.append (h : StartsLine base n gs) (gs' : List Glyph) :
    StartsLine base n (gs ++ gs') := by
  obtain ⟨g, rest, rfl, hg⟩ := h
  exact ⟨g, rest ++ gs', by simp, hg⟩

private theorem LinesIndented.of_not_mem (h : .plain '\n' ∉ gs) : LinesIndented base n gs := by
  rintro before after rfl
  exact absurd (by simp) h

/-- Lines behind a glyph that does not break the line. -/
theorem LinesIndented.cons (hg : g ≠ .plain '\n') (h : LinesIndented base (openAfter n g) gs) :
    LinesIndented base n (g :: gs) := by
  intro before after heq
  cases before with
  | nil => exact absurd (List.cons.inj heq).1 hg
  | cons g' before =>
    obtain ⟨rfl, hrest⟩ := List.cons.inj heq
    exact h before after hrest

private theorem LinesIndented.lineBreak (hstart : StartsLine base n gs)
    (h : LinesIndented base n gs) : LinesIndented base n (.plain '\n' :: gs) := by
  intro before after heq
  cases before with
  | nil =>
    obtain ⟨-, rfl⟩ := List.cons.inj heq
    exact hstart
  | cons g' before =>
    obtain ⟨rfl, hrest⟩ := List.cons.inj heq
    exact h before after hrest

/-- Lines in two rows of glyphs. -/
theorem LinesIndented.append (h : LinesIndented base n gs)
    (h' : LinesIndented base (openBehind n gs) gs') : LinesIndented base n (gs ++ gs') := by
  intro before after heq
  rcases List.append_eq_append_iff.mp heq with ⟨front, rfl, hback⟩ | ⟨back, rfl, hback⟩
  · rw [openBehind_append]
    exact h' front after hback
  · cases back with
    | nil =>
      have hfirst := h' [] after hback.symm
      rwa [List.append_nil] at hfirst
    | cons g back =>
      obtain ⟨rfl, rfl⟩ := List.cons.inj hback
      exact (h before back rfl).append gs'

/-- Glyphs that close the brackets of structures that they open, and whose lines are indented. -/
structure Indented (base n : Nat) (gs : List Glyph) : Prop where
  closed : openBehind n gs = n
  lines : LinesIndented base n gs

/-- No glyphs at all. -/
theorem Indented.nil : Indented base n [] := ⟨rfl, .of_not_mem (by simp)⟩

/-- Texts that do not break lines. -/
theorem Indented.text {text : String} (h : Lacks ['\n'] text) :
    Indented base n (ofText text) := by
  refine ⟨openBehind_ofText n text, .of_not_mem fun hmem => ?_⟩
  obtain ⟨c, hc, hbreak⟩ := List.mem_map.mp hmem
  cases hbreak
  exact h '\n' (by simp) hc

/-- One after the other. -/
theorem Indented.append (h : Indented base n gs) (h' : Indented base n gs') :
    Indented base n (gs ++ gs') := by
  refine ⟨by rw [openBehind_append, h.closed, h'.closed], h.lines.append ?_⟩
  rw [h.closed]
  exact h'.lines

/-- One after the other, for a list of them. -/
theorem Indented.flatMap {α : Type} {f : α → List Glyph} {as : List α}
    (h : ∀ a ∈ as, Indented base n (f a)) : Indented base n (as.flatMap f) := by
  induction as with
  | nil => exact .nil
  | cons a as ih =>
    rw [List.flatMap_cons]
    exact (h a (by simp)).append (ih fun b hb => h b (by simp [hb]))

private theorem Indented.inList (h : Indented base n gs) :
    Indented base n (.opening .list :: (gs ++ [.closing .list])) := by
  have hclosing : Indented base n [.closing .list] := ⟨rfl, .of_not_mem (by simp)⟩
  obtain ⟨hclosed, hlines⟩ := h.append hclosing
  exact ⟨hclosed, hlines.cons (by simp)⟩

private theorem Indented.inStruct (h : Indented base (n + 1) gs)
    (hlast : gs' = [] ∨ gs' = ofText ("\n" ++ levels (base + n))) :
    Indented base n (.opening .struct :: (gs ++ gs' ++ [.closing .struct])) := by
  have hclosing : LinesIndented base (n + 1) [.closing .struct] := .of_not_mem (by simp)
  have hopen : openBehind (n + 1) gs' = n + 1 := by
    rcases hlast with rfl | rfl
    · rfl
    · exact openBehind_ofText _ _
  have hbehind : openBehind (n + 1) (gs ++ gs') = n + 1 := by
    rw [openBehind_append, h.closed, hopen]
  have hend : LinesIndented base (n + 1) (gs' ++ [.closing .struct]) := by
    rcases hlast with rfl | rfl
    · exact hclosing
    · rw [Glyph.ofText_lineBreak]
      refine .lineBreak ⟨.closing .struct, [], rfl, by decide⟩ ?_
      refine (Indented.text (lacks_levels (by decide) _)).lines.append ?_
      rwa [openBehind_ofText]
  refine ⟨?_, .cons (by simp) ?_⟩
  · change openBehind (n + 1) (gs ++ gs' ++ [.closing .struct]) = n
    rw [openBehind_append, hbehind]
    rfl
  · rw [List.append_assoc]
    apply h.lines.append
    rwa [h.closed]

/-- A line of its own that starts with a quote. -/
theorem Indented.line (h : Indented base n (.plain '"' :: gs)) :
    Indented base n (ofText ("\n" ++ levels (base + n)) ++ .plain '"' :: gs) := by
  have hlevels : Indented base n (ofText (levels (base + n))) := .text (lacks_levels (by decide) _)
  obtain ⟨hclosed, hlines⟩ := hlevels.append h
  rw [Glyph.ofText_lineBreak]
  exact ⟨hclosed, .lineBreak ⟨.plain '"', gs, rfl, by decide⟩ hlines⟩

end Lines

namespace Expansion

private theorem exists_entryGlyphs (indent : String) (m : String × Bool × Expansion) :
    ∃ gs, entryGlyphs indent m = .plain '"' :: gs := by
  have hquote : Glyph.ofText "\"" = [.plain '"'] := rfl
  rw [entryGlyphs, memberOpening, memberText, String.append_empty, String.append_assoc,
    String.append_assoc, Glyph.ofText_append, hquote]
  exact ⟨_, rfl⟩

/-- The lines of a layout are indented. -/
theorem indented_glyphs {e : Expansion} (h : e.HasTexts (Lacks ['\n'])) (base n : Nat) :
    Indented base n (e.glyphs (levels (base + n + 1))) := by
  induction h generalizing n with
  | word htext => exact .text htext
  | values htexts => exact .text (lacks_layout_values (by decide) htexts _)
  | list _ ih =>
    rw [glyphs]
    exact ((ih n).append (.text (by decide))).inList
  | @struct members hname _ ih =>
    have hentry : ∀ m ∈ members,
        Indented base (n + 1) (entryGlyphs (levels (base + (n + 1))) m) := by
      intro m hm
      have hvalue := ih m hm (n + 1)
      rw [← levels_append_indentUnit] at hvalue
      exact .append (.text (lacks_memberOpening (by decide) (hname m hm) m.2.1)) hvalue
    have hline : ∀ m ∈ members, Indented base (n + 1)
        (ofText ("\n" ++ levels (base + (n + 1))) ++ entryGlyphs (levels (base + (n + 1))) m) := by
      intro m hm
      obtain ⟨gs, hgs⟩ := exists_entryGlyphs (levels (base + (n + 1))) m
      have hm := hentry m hm
      rw [hgs] at hm ⊢
      exact hm.line
    rw [glyphs_struct, Nat.add_assoc]
    match members with
    | [] => exact Indented.inStruct .nil (.inl rfl)
    | [only] =>
      have honly := (hentry only (by simp)).inStruct (.inl rfl)
      rwa [List.append_nil] at honly
    | first :: second :: rest =>
      have hothers : ∀ m ∈ second :: rest, Indented base (n + 1)
          (ofText (",\n" ++ levels (base + (n + 1))) ++
            entryGlyphs (levels (base + (n + 1))) m) := by
        intro m hm
        have hcomma : Indented base (n + 1) (ofText ",") := .text (by decide)
        have hsplit : ",\n" = "," ++ "\n" := by decide
        rw [hsplit, String.append_assoc, Glyph.ofText_append, List.append_assoc]
        exact hcomma.append (hline m (.tail _ hm))
      have hrest := Indented.flatMap hothers
      rw [List.flatMap_cons] at hrest
      simp only [List.map_cons, Glyph.bracketed, List.flatMap_cons, List.flatMap_map,
        ← Nat.add_assoc, outdent_levels]
      exact ((hline first (by simp)).append hrest).inStruct (.inr rfl)

/-! ### Which brackets there are -/

private theorem unbracketed_ofText {text : String} (h : Lacks ['[', ']'] text) {c : Char}
    (hc : .plain c ∈ ofText text) : c ≠ '[' ∧ c ≠ ']' := by
  obtain ⟨d, hd, hplain⟩ := List.mem_map.mp hc
  cases hplain
  constructor <;> rintro rfl
  · exact h '[' (by simp) hd
  · exact h ']' (by simp) hd

private theorem unbracketed_bracketed {n : Nat} {members : List (List Glyph)}
    (h : ∀ gs ∈ members, ∀ c, .plain c ∈ gs → c ≠ '[' ∧ c ≠ ']') {c : Char}
    (hc : .plain c ∈ Glyph.bracketed (levels (n + 1)) members) : c ≠ '[' ∧ c ≠ ']' := by
  have hlead : ∀ lead ∈ ["\n", ",\n"], ∀ n, .plain c ∈ ofText (lead ++ levels n) →
      c ≠ '[' ∧ c ≠ ']' := by
    intro lead hlead n hc
    have hfixed : ∀ lead ∈ ["\n", ",\n"], Lacks ['[', ']'] lead := by decide
    exact unbracketed_ofText ((hfixed lead hlead).append (lacks_levels (by decide) n)) hc
  match members with
  | [] => simp [Glyph.bracketed] at hc
  | [only] =>
    simp only [Glyph.bracketed, List.mem_cons, List.mem_append, reduceCtorEq, false_or,
      List.not_mem_nil, or_false] at hc
    exact h only (by simp) c hc
  | first :: second :: rest =>
    simp only [Glyph.bracketed, List.mem_cons, List.mem_append, reduceCtorEq, false_or,
      List.not_mem_nil, or_false, outdent_levels, List.mem_flatMap] at hc
    obtain ((hc | hc) | ⟨member, hmember, hc | hc⟩) | hc := hc
    · exact hlead "\n" (by simp) _ hc
    · exact h first (by simp) c hc
    · exact hlead ",\n" (by simp) _ hc
    · exact h member (by simpa using .inr hmember) c hc
    · exact hlead "\n" (by simp) _ hc

/-- Where no text has brackets, all brackets of a layout are brackets of lists and structures. -/
theorem unbracketed_glyphs {e : Expansion} (h : e.HasTexts (Lacks ['[', ']'])) (n : Nat) {c : Char}
    (hc : .plain c ∈ e.glyphs (levels (n + 1))) : c ≠ '[' ∧ c ≠ ']' := by
  induction h generalizing n c with
  | word htext => exact unbracketed_ofText htext hc
  | values htexts => exact unbracketed_ofText (lacks_layout_values (by decide) htexts _) hc
  | list _ ih =>
    simp only [glyphs, List.mem_cons, List.mem_append, reduceCtorEq, false_or,
      List.not_mem_nil, or_false] at hc
    exact hc.elim (ih n) (unbracketed_ofText (by decide))
  | @struct members hname _ ih =>
    rw [glyphs_struct] at hc
    refine unbracketed_bracketed (fun gs hgs c hc => ?_) hc
    obtain ⟨m, hm, rfl⟩ := List.mem_map.mp hgs
    rw [entryGlyphs, levels_append_indentUnit, List.mem_append] at hc
    exact hc.elim (unbracketed_ofText (lacks_memberOpening (by decide) (hname m hm) m.2.1))
      (ih m hm (n + 1))

end Expansion

/-! ### Indented renderings -/

/-- Depth only shifts a rendering. Where the texts of a service do not break lines, rendering one
level further in gives the same report, with one level more behind each line break of the text.
Where they have no brackets either, each line of a text below `k` levels that follows a line break
is indented by one level less than `k`, and by one level for each bracket of a structure that is
open in front of the line's first character, the one that this character closes not counted. -/
theorem render_indented {d : Description} (hd : Worded (Lacks ['\n']) d) (docs : Formatter)
    {k : Nat} (hk : 1 ≤ k) (chain : List String) (name : String) :
    render d docs (levels (k + 1)) chain name = (render d docs (levels k) chain name).map deepen ∧
      (Worded (Lacks ['[', ']']) d → ∀ text,
        (render d docs (levels k) chain name).outcome = .ok text →
        ∃ e, (expand d chain name).outcome = .ok e ∧
          (e.glyphs (levels k)).map Glyph.char = text.toList ∧
          (∀ c, .plain c ∈ e.glyphs (levels k) → c ≠ '[' ∧ c ≠ ']') ∧
          ∀ before line, e.glyphs (levels k) = before ++ .plain '\n' :: line →
            StartsLine (k - 1) (openBehind 0 before) line) := by
  obtain ⟨n, rfl⟩ := Nat.exists_eq_add_of_le' hk
  have htexts : ∀ {e}, (expand d chain name).outcome = .ok e → e.HasTexts (Lacks ['\n']) :=
    hasTexts_of_expand (by decide) hd
  rw [render_levels, render_levels]
  refine ⟨?_, fun hbrackets text htext => ?_⟩
  · rw [Report.map_map]
    refine Report.ext rfl ?_
    rw [Report.outcome_map, Report.outcome_map]
    cases he : (expand d chain name).outcome with
    | error failure => rfl
    | ok e => exact congrArg Except.ok (layout_levels_succ (htexts he) n)
  · obtain ⟨e, he, rfl⟩ := (Report.outcome_map_eq_ok_iff _ _ _).mp htext
    have hlines := (Expansion.indented_glyphs (htexts he) n 0).lines
    exact ⟨e, he, Expansion.map_char_glyphs (htexts he) _,
      fun c => Expansion.unbracketed_glyphs (hasTexts_of_expand (by decide) hbrackets he) n, hlines⟩

/-- Shelves of books. -/
def shelfDescription : Description :=
  (((((Description.ofMetadata (.ofRequired .json "shelf" "1")).putShape "Shelf"
    (.struct ⟨(NameTable.empty.put "Books" (.ofShape "Books")).put "Label" (.ofShape "Text"),
      ["Label"], none⟩)).putShape "Books" (.list (.ofShape "Book"))).putShape "Book"
    (.struct ⟨NameTable.empty.put "Author" (.ofShape "Author"), [], none⟩)).putShape "Author"
    (.struct ⟨(NameTable.empty.put "Born" (.ofShape "Year")).put "Name" (.ofShape "Text"),
      [], none⟩)).putShape "Text" (.string []) |>.putShape "Year" .integer

/-- A shelf below one level. Between the line of the books and the lines of an author, the brackets
of a book and of its author are opened, and that of the list. -/
def shelfText : String :=
  "[\n    \"Books\" => [[\"Author\" => [\n            \"Born\" => ::Int,\n" ++
  "            \"Name\" => ::String\n        ]], ...],\n    \"Label\" => <required> ::String\n]"

set_option maxRecDepth 4000 in
/-- A shelf one level further in, and its lines. -/
theorem render_shelf_indented :
    Worded (Lacks ['\n']) shelfDescription ∧ Worded (Lacks ['[', ']']) shelfDescription ∧
      (render shelfDescription id (levels 1) [] "Shelf").outcome = .ok shelfText ∧
      (render shelfDescription id (levels 2) [] "Shelf").outcome = .ok (deepen shelfText) ∧
      ∃ e : Expansion, (e.glyphs (levels 1)).map Glyph.char = shelfText.toList ∧
        LinesIndented 0 0 (e.glyphs (levels 1)) := by
  have hlines : Worded (Lacks ['\n']) shelfDescription := by decide +kernel
  have hbrackets : Worded (Lacks ['[', ']']) shelfDescription := by decide +kernel
  have htext : (render shelfDescription id (levels 1) [] "Shelf").outcome = .ok shelfText := by
    with_unfolding_all rfl
  obtain ⟨hshift, hindent⟩ := render_indented hlines id (by decide : 1 ≤ 1) [] "Shelf"
  obtain ⟨e, -, hglyphs, -, hlast⟩ := hindent hbrackets shelfText htext
  refine ⟨hlines, hbrackets, htext, ?_, e, hglyphs, hlast⟩
  rw [hshift, Report.outcome_map, htext]
  rfl

end ApiBindings.Bindings
