import ApiBindings.Proofs.Brief
import ApiBindings.Proofs.Indentation

/-!
# Brackets in layouts

The brackets of a layout match each other. Where it takes several lines, its first line opens some
brackets and its last line closes as many; in between all brackets are closed that are opened there.
So its brief, which shows the first and last lines only, is well bracketed too.

The texts in an expansion must have no brackets and must not break lines.
-/

namespace ApiBindings.Bindings

open Service

/-! ### Matching brackets -/

/-- How many brackets are open behind a character, by their number in front of it. Without an open
bracket none can be closed. -/
def bracketStep (n : Nat) (c : Char) : Option Nat :=
  if c = '[' then some (n + 1)
  else if c = ']' then if n = 0 then none else some (n - 1)
  else some n

/-- How many brackets are open behind characters, by their number in front of them. -/
def openBrackets (n : Nat) (s : List Char) : Option Nat := s.foldlM bracketStep n

/-- A text whose brackets match: each that closes does so behind one that opens, and none is left
open. -/
def Balanced (text : String) : Prop := openBrackets 0 text.toList = some 0

instance : DecidablePred Balanced := fun text =>
  inferInstanceAs (Decidable (openBrackets 0 text.toList = some 0))

/-- The brackets of a text. -/
def brackets (text : String) : List Char := text.toList.filter fun c => c == '[' || c == ']'

private theorem brackets_append (a b : String) : brackets (a ++ b) = brackets a ++ brackets b := by
  rw [brackets, String.toList_append, List.filter_append]
  rfl

private theorem brackets_eq_nil {text : String} (h : Lacks ['[', ']', '\n'] text) :
    brackets text = [] := by
  rw [brackets, List.filter_eq_nil_iff]
  intro c hc hbracket
  have hcases : c = '[' ∨ c = ']' := by simpa using hbracket
  rcases hcases with rfl | rfl
  · exact h '[' (by simp) hc
  · exact h ']' (by simp) hc

private theorem openBrackets_filter (n : Nat) (s : List Char) :
    openBrackets n (s.filter fun c => c == '[' || c == ']') = openBrackets n s := by
  induction s generalizing n with
  | nil => rfl
  | cons c s ih =>
    by_cases hc : c = '[' ∨ c = ']'
    · rw [List.filter_cons_of_pos (by simpa using hc), openBrackets, openBrackets,
        List.foldlM_cons, List.foldlM_cons]
      exact congrArg _ (funext ih)
    · have hstep : bracketStep n c = some n := by
        simp only [not_or] at hc
        rw [bracketStep, if_neg hc.1, if_neg hc.2]
      rw [List.filter_cons_of_neg (by simpa using hc), ih, openBrackets, openBrackets,
        List.foldlM_cons, hstep]
      rfl

/-- Whether brackets match is a matter of the brackets only. -/
theorem balanced_iff_brackets {text : String} :
    Balanced text ↔ openBrackets 0 (brackets text) = some 0 := by
  rw [brackets, openBrackets_filter]
  rfl

/-- Brackets are counted through one text and then the other. -/
theorem openBrackets_append (n : Nat) (s t : List Char) :
    openBrackets n (s ++ t) = (openBrackets n s).bind (openBrackets · t) :=
  List.foldlM_append

private theorem openBrackets_add {s : List Char} {n m : Nat} (h : openBrackets n s = some m)
    (k : Nat) : openBrackets (n + k) s = some (m + k) := by
  induction s generalizing n with
  | nil =>
    cases h
    rfl
  | cons c s ih =>
    rw [openBrackets, List.foldlM_cons] at h ⊢
    obtain ⟨i, hi, hrest⟩ := Option.bind_eq_some_iff.mp h
    have hstep : bracketStep (n + k) c = some (i + k) := by
      rw [bracketStep] at hi ⊢
      split at hi
      · cases hi
        rw [if_pos ‹_›, Nat.add_right_comm]
      · split at hi
        · split at hi
          · cases hi
          · cases hi
            rw [if_neg ‹_›, if_pos ‹_›, if_neg (by omega)]
            congr 1
            omega
        · cases hi
          rw [if_neg ‹_›, if_neg ‹_›]
    rw [hstep]
    exact ih hrest

private theorem openBrackets_opening (n m : Nat) :
    openBrackets m (List.replicate n '[') = some (m + n) := by
  induction n generalizing m with
  | zero => rfl
  | succ n ih =>
    have hstep : openBrackets m (List.replicate (n + 1) '[') =
        openBrackets (m + 1) (List.replicate n '[') := rfl
    rw [hstep, ih, Nat.add_right_comm, Nat.add_assoc]

private theorem openBrackets_closing (n m : Nat) :
    openBrackets (m + n) (List.replicate n ']') = some m := by
  induction n with
  | zero => rfl
  | succ n ih =>
    have hstep : openBrackets (m + (n + 1)) (List.replicate (n + 1) ']') =
        openBrackets (m + n) (List.replicate n ']') := rfl
    rw [hstep, ih]

namespace Balanced

private theorem of_lacks {text : String} (h : Lacks ['[', ']', '\n'] text) : Balanced text := by
  rw [balanced_iff_brackets, brackets_eq_nil h]
  rfl

/-- Two texts whose brackets match, in a row. -/
theorem append {a b : String} (ha : Balanced a) (hb : Balanced b) : Balanced (a ++ b) := by
  rw [Balanced, String.toList_append, openBrackets_append, ha]
  exact hb

/-- Texts whose brackets match, joined by one. -/
theorem intercalate {separator : String} (hseparator : Balanced separator) {texts : List String}
    (h : ∀ text ∈ texts, Balanced text) : Balanced (separator.intercalate texts) := by
  induction texts with
  | nil => rfl
  | cons text texts ih =>
    cases texts with
    | nil => simpa using h text (by simp)
    | cons next texts =>
      rw [String.intercalate_cons_cons]
      exact ((h text (by simp)).append hseparator).append (ih fun t ht => h t (.tail _ ht))

/-- A text whose brackets match, between a text that opens brackets and one that closes as many. -/
theorem between {n : Nat} {front text back : String}
    (hopens : brackets front = List.replicate n '[') (htext : Balanced text)
    (hcloses : brackets back = List.replicate n ']') :
    Balanced (front ++ text ++ back) := by
  have hopen : openBrackets 0 (brackets front) = some (0 + n) := by
    rw [hopens, openBrackets_opening]
  have hinner : openBrackets (0 + n) (brackets text) = some (0 + n) :=
    openBrackets_add (balanced_iff_brackets.mp htext) n
  have hclose : openBrackets (0 + n) (brackets back) = some 0 := by
    rw [hcloses, openBrackets_closing]
  rw [balanced_iff_brackets, brackets_append, brackets_append, openBrackets_append,
    openBrackets_append, hopen, Option.bind_some, hinner, Option.bind_some, hclose]

end Balanced

private theorem brackets_trim (text : String) : brackets (Text.trim text) = brackets text := by
  rw [brackets, brackets, Text.trim, String.toList_ofList]
  apply Text.filter_trimBlank
  intro c hblank
  rw [Bool.eq_false_iff]
  intro hbracket
  have hcases : c = '[' ∨ c = ']' := by simpa using hbracket
  rcases hcases with rfl | rfl <;> exact absurd hblank (by decide)

private theorem trimBlank_ne_nil {text : String} (h : brackets text ≠ []) :
    Text.trimBlank text.toList ≠ [] := by
  intro hblank
  have htrim := brackets_trim text
  rw [Text.trim, hblank] at htrim
  exact h htrim.symm

/-! ### Lines and their brackets -/

/-- A text of several lines of which the first opens some brackets and the last closes as many. The
brackets in between match. -/
structure Framed (text : String) (n : Nat) (first middle last : String) : Prop where
  text_eq : text = first ++ "\n" ++ middle ++ "\n" ++ last
  firstLine : '\n' ∉ first.toList
  lastLine : '\n' ∉ last.toList
  pos : 0 < n
  opens : brackets first = List.replicate n '['
  closes : brackets last = List.replicate n ']'
  inner : Balanced middle

namespace Framed

variable {text : String} {n : Nat} {first middle last : String}

private theorem balanced (h : Framed text n first middle last) : Balanced text := by
  have hbreak : Balanced "\n" := by decide
  have hall := Balanced.between h.opens ((hbreak.append h.inner).append hbreak) h.closes
  rw [h.text_eq]
  simpa only [String.append_assoc] using hall

private theorem brief_eq (h : Framed text n first middle last) :
    Text.brief text = Text.trim first ++ " ... " ++ Text.trim last := by
  have hpos := h.pos
  rw [h.text_eq]
  apply Text.brief_of_lines h.firstLine h.lastLine
  · exact trimBlank_ne_nil (by rw [h.opens]; simp; omega)
  · exact trimBlank_ne_nil (by rw [h.closes]; simp; omega)

/-- The brackets of its brief match. -/
theorem balanced_brief (h : Framed text n first middle last) : Balanced (Text.brief text) := by
  rw [h.brief_eq]
  apply Balanced.between (n := n)
  · rw [brackets_trim, h.opens]
  · decide
  · rw [brackets_trim, h.closes]

private theorem enclose (h : Framed text n first middle last) {front back : String}
    (hfront : '\n' ∉ front.toList) (hback : '\n' ∉ back.toList) (hopens : brackets front = ['['])
    (hcloses : brackets back = [']']) :
    Framed (front ++ text ++ back) (n + 1) (front ++ first) middle (last ++ back) where
  text_eq := by simp [h.text_eq, String.append_assoc]
  firstLine := by simp [hfront, h.firstLine]
  lastLine := by simp [hback, h.lastLine]
  pos := Nat.succ_pos n
  opens := by
    rw [brackets_append, hopens, h.opens, List.replicate_succ]
    rfl
  closes := by rw [brackets_append, hcloses, h.closes, List.replicate_succ']
  inner := h.inner

end Framed

/-- Two members or more are framed by the brackets around them, which are on lines of their own. -/
theorem framed_bracketed {first second : String} {rest : List String}
    (h : ∀ text ∈ first :: second :: rest, Balanced text) (n : Nat) :
    Framed (bracketed (levels (n + 1)) (first :: second :: rest)) 1 "["
      (levels (n + 1) ++ (",\n" ++ levels (n + 1)).intercalate (first :: second :: rest))
      (levels n ++ "]") where
  text_eq := by
    have hsplit : "[\n" = "[" ++ "\n" := by decide
    simp only [bracketed, outdent_levels, hsplit, String.append_assoc]
  firstLine := by decide
  lastLine := by simpa using lacks_levels (by decide : ' ' ∉ ['\n']) n '\n' (by simp)
  pos := by decide
  opens := by decide
  closes := by
    rw [brackets_append, brackets_eq_nil (lacks_levels (by decide) n)]
    decide
  inner := by
    have hindent : Balanced (levels (n + 1)) := .of_lacks (lacks_levels (by decide) (n + 1))
    have hseparator : Balanced (",\n" ++ levels (n + 1)) := .append (by decide) hindent
    exact hindent.append (hseparator.intercalate h)

/-- A text whose brackets match and are framed by its first and last lines, if it has several. -/
inductive WellBracketed (text : String) : Prop
  | line (hbalanced : Balanced text) (hline : '\n' ∉ text.toList)
  | lines {n : Nat} {first middle last : String} (h : Framed text n first middle last)

namespace WellBracketed

variable {text : String}

private theorem balanced_and_brief (h : WellBracketed text) :
    Balanced text ∧ Balanced (Text.brief text) := by
  cases h with
  | line hbalanced hline =>
    refine ⟨hbalanced, ?_⟩
    rw [Text.brief_of_line hline, balanced_iff_brackets, brackets_trim, ← balanced_iff_brackets]
    exact hbalanced
  | lines h => exact ⟨h.balanced, h.balanced_brief⟩

private theorem exists_framed (h : WellBracketed text) (hlines : '\n' ∈ text.toList) :
    ∃ n first middle last, Framed text n first middle last := by
  cases h with
  | line _ hline => exact absurd hlines hline
  | lines h => exact ⟨_, _, _, _, h⟩

private theorem of_lacks (h : Lacks ['[', ']', '\n'] text) : WellBracketed text :=
  .line (.of_lacks h) (h '\n' (by simp))

private theorem enclose (h : WellBracketed text) {front back : String}
    (hfront : '\n' ∉ front.toList) (hback : '\n' ∉ back.toList) (hopens : brackets front = ['['])
    (hcloses : brackets back = [']']) : WellBracketed (front ++ text ++ back) := by
  cases h with
  | line hbalanced hline =>
    refine .line (.between (n := 1) hopens hbalanced hcloses) ?_
    simp [hfront, hline, hback]
  | lines h => exact .lines (h.enclose hfront hback hopens hcloses)

end WellBracketed

namespace Expansion

/-- The layout of an expansion is well bracketed. -/
theorem wellBracketed_layout {e : Expansion} (h : e.HasTexts (Lacks ['[', ']', '\n'])) (n : Nat) :
    WellBracketed (e.layout (levels (n + 1))) := by
  induction h generalizing n with
  | word htext => exact .of_lacks htext
  | values htexts => exact .of_lacks (lacks_layout_values (by decide) htexts _)
  | list _ ih => exact (ih n).enclose (by decide) (by decide) (by decide) (by decide)
  | @struct members hname _ ih =>
    have hopening : ∀ m ∈ members, Lacks ['[', ']', '\n'] (memberOpening m.1 m.2.1) :=
      fun m hm => lacks_memberOpening (by decide) (hname m hm) m.2.1
    rw [layout_struct]
    match members with
    | [] =>
      have hempty : WellBracketed "[]" := .line (by decide) (by decide)
      exact hempty
    | [only] =>
      have hlacks := hopening only (by simp)
      have hline : '\n' ∉ ("[" ++ memberOpening only.1 only.2.1).toList := by
        simpa using hlacks '\n' (by simp)
      have hopens : brackets ("[" ++ memberOpening only.1 only.2.1) = ['['] := by
        rw [brackets_append, brackets_eq_nil hlacks]
        decide
      have hcloses : brackets "]" = [']'] := by decide
      have honly := (ih only (by simp) (n + 1)).enclose hline (by decide) hopens hcloses
      simpa [bracketed, entryText, memberText_eq, levels_append_indentUnit, String.append_assoc]
        using honly
    | first :: second :: rest =>
      have hentry : ∀ m ∈ first :: second :: rest, Balanced (entryText (levels (n + 1)) m) := by
        intro m hm
        rw [entryText, memberText_eq, levels_append_indentUnit]
        exact (Balanced.of_lacks (hopening m hm)).append (ih m hm (n + 1)).balanced_and_brief.1
      exact .lines (framed_bracketed (List.forall_mem_map.mpr hentry) n)

end Expansion

/-! ### Renderings and their briefs -/

private theorem wellBracketed_argument {d : Description} (hd : Worded (Lacks ['[', ']', '\n']) d)
    {docs : Formatter} {chain : List String} {s : Structure} {arguments : List Argument}
    (h : (argumentsOf d docs chain s).outcome = .ok arguments) {a : Argument} (ha : a ∈ arguments) :
    WellBracketed a.value := by
  obtain ⟨member, -, hmember⟩ := exists_of_mem_right ((Report.outcome_each_eq_ok_iff _ _ _).mp h) ha
  obtain ⟨e, he, rfl⟩ := (Report.outcome_map_eq_ok_iff _ _ _).mp hmember
  exact Expansion.wellBracketed_layout (hasTexts_of_expand (by decide) hd he) 0

private theorem Argument.text_of_isLong {a : Argument} (h : a.isLong = true) :
    a.heading = "## \x60" ++ a.name ++ " = " ++ Text.brief a.value ++ "\x60" ∧
      ∃ between, a.text = a.heading ++ between ++
        "\n\x60\x60\x60\n " ++ a.name ++ " = " ++ a.value ++ "\n\x60\x60\x60" := by
  refine ⟨by rw [heading, if_pos h], (if a.required then " -- *Required*" else "") ++
    (a.documentation.map ("\n" ++ ·)).getD "", ?_⟩
  rw [text, if_pos h]
  cases a.documentation <;> simp [String.append_assoc]

/-- Nested renderings and their briefs are well bracketed. Where the texts of a service have no
brackets and do not break lines, the brackets of a rendering below one level or more match, and so
do those of its brief. If the rendering takes several lines, the first one opens some brackets, the
last one closes as many, and the brief shows these two lines. So the heading of an argument of
several lines shows a well-bracketed outline of the text in the fence below it. -/
theorem render_wellBracketed {d : Description} (hd : Worded (Lacks ['[', ']', '\n']) d)
    (docs : Formatter) (chain : List String) :
    (∀ k name text, 1 ≤ k → (render d docs (levels k) chain name).outcome = .ok text →
      Balanced text ∧ Balanced (Text.brief text) ∧
        ('\n' ∈ text.toList → ∃ n first middle last, Framed text n first middle last ∧
          Text.brief text = Text.trim first ++ " ... " ++ Text.trim last)) ∧
      ∀ s arguments, (argumentsOf d docs chain s).outcome = .ok arguments →
        ∀ a ∈ arguments, a.isLong = true → ∃ n first middle last outline between,
          Framed a.value n first middle last ∧
          outline = Text.trim first ++ " ... " ++ Text.trim last ∧ Balanced outline ∧
          a.heading = "## \x60" ++ a.name ++ " = " ++ outline ++ "\x60" ∧
          a.text = a.heading ++ between ++
            "\n\x60\x60\x60\n " ++ a.name ++ " = " ++ a.value ++ "\n\x60\x60\x60" := by
  constructor
  · intro k name text hk htext
    obtain ⟨n, rfl⟩ := Nat.exists_eq_add_of_le' hk
    rw [render_levels] at htext
    obtain ⟨e, he, rfl⟩ := (Report.outcome_map_eq_ok_iff _ _ _).mp htext
    have hwell := Expansion.wellBracketed_layout (hasTexts_of_expand (by decide) hd he) n
    refine ⟨hwell.balanced_and_brief.1, hwell.balanced_and_brief.2, fun hlines => ?_⟩
    obtain ⟨m, first, middle, last, hframed⟩ := hwell.exists_framed hlines
    exact ⟨m, first, middle, last, hframed, hframed.brief_eq⟩
  · intro s arguments harguments a ha hlong
    have hlines : '\n' ∈ a.value.toList := List.contains_iff_mem.mp hlong
    obtain ⟨n, first, middle, last, hframed⟩ :=
      (wellBracketed_argument hd harguments ha).exists_framed hlines
    obtain ⟨hheading, between, htext⟩ := Argument.text_of_isLong hlong
    exact ⟨n, first, middle, last, Text.brief a.value, between, hframed, hframed.brief_eq,
      hframed.balanced_brief, hheading, htext⟩

/-- The books of a shelf, as an argument. -/
def booksArgument : Argument where
  name := "Books"
  value :=
    "[[\"Author\" => [\n        \"Born\" => ::Int,\n        \"Name\" => ::String\n    ]], ...]"
  required := false
  documentation := none

set_option maxRecDepth 4000 in
/-- A shelf, and the outline of its books: their first line opens the brackets of the list, of a
book and of its author. -/
theorem render_shelf_wellBracketed :
    Worded (Lacks ['[', ']', '\n']) shelfDescription ∧
      (render shelfDescription id (levels 1) [] "Shelf").outcome = .ok shelfText ∧
      Balanced shelfText ∧ Balanced (Text.brief shelfText) ∧
      ∃ s arguments, shelfDescription.shapes.find? "Shelf" = some (.struct s) ∧
        (argumentsOf shelfDescription id ["Shelf"] s).outcome = .ok arguments ∧
        booksArgument ∈ arguments ∧
        booksArgument.heading = "## \x60Books = [[\"Author\" => [ ... ]], ...]\x60" ∧
        ∃ n first middle last, Framed booksArgument.value n first middle last := by
  have hd : Worded (Lacks ['[', ']', '\n']) shelfDescription := by decide +kernel
  have htext : (render shelfDescription id (levels 1) [] "Shelf").outcome = .ok shelfText := by
    with_unfolding_all rfl
  have hbalanced := (render_wellBracketed hd id []).1 1 "Shelf" shelfText (by decide) htext
  obtain ⟨s, hfound⟩ : ∃ s, shelfDescription.shapes.find? "Shelf" = some (.struct s) := ⟨_, rfl⟩
  have harguments : (argumentsOf shelfDescription id ["Shelf"] s).outcome =
      .ok [booksArgument, ⟨"Label", "::String", true, none⟩] := by
    cases hfound
    with_unfolding_all rfl
  obtain ⟨n, first, middle, last, _, _, hframed, -⟩ :=
    (render_wellBracketed hd id ["Shelf"]).2 s _ harguments booksArgument (by simp) (by decide)
  exact ⟨hd, htext, hbalanced.1, hbalanced.2.1, s, _, hfound, harguments, by simp, by decide, n,
    first, middle, last, hframed⟩

end ApiBindings.Bindings
