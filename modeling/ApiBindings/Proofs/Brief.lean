import ApiBindings.Text.Brief
import Mathlib.Data.List.DropRight

/-!
# What a brief shows

The lines of two texts with a line feed between them are the lines of the one and of the other. So
the brief of a text whose first and last lines are not blank shows these two lines, whatever stands
between them. Trimming takes away blank characters only, and no others; it takes away all that stand
at the ends, so that a brief is a trimmed line.
-/

namespace ApiBindings.Text

/-! ### Lines -/

/-- The lines of two texts with a line feed between them. -/
theorem lines_append_lineFeed (s t : List Char) : lines (s ++ '\n' :: t) = lines s ++ lines t := by
  induction s with
  | nil => rfl
  | cons c s ih =>
    simp only [lines, List.cons_append] at ih
    obtain ⟨hfirst, hothers⟩ := List.cons.inj ih
    by_cases hc : c = '\n'
    · simp [lines, splitAt, hc, hfirst, hothers]
    · simp [lines, splitAt, hc, hfirst, hothers]

/-- A text without line feeds is one line. -/
theorem lines_of_notMem {s : List Char} (h : '\n' ∉ s) : lines s = [s] := by
  rw [lines, splitAt_of_notMem h]

/-- The full lines of two texts with a line feed between them. -/
theorem fullLines_append_lineFeed (s t : List Char) :
    fullLines (s ++ '\n' :: t) = fullLines s ++ fullLines t := by
  rw [fullLines, lines_append_lineFeed, List.map_append, List.filter_append]
  rfl

private theorem fullLines_of_line {s : List Char} (h : '\n' ∉ s) (hfull : trimBlank s ≠ []) :
    fullLines s = [trimBlank s] := by
  simp [fullLines, lines_of_notMem h, hfull]

private theorem fullLines_of_blank {s : List Char} (h : '\n' ∉ s) (hblank : trimBlank s = []) :
    fullLines s = [] := by
  simp [fullLines, lines_of_notMem h, hblank]

/-! ### Trimming -/

private theorem filter_dropWhile {α : Type} {p q : α → Bool} (h : ∀ a, q a = true → p a = false)
    (s : List α) : (s.dropWhile q).filter p = s.filter p := by
  induction s with
  | nil => rfl
  | cons a s ih =>
    rw [List.dropWhile_cons]
    split
    next hq => rw [ih, List.filter_cons_of_neg (by simp [h a hq])]
    next => rfl

/-- Trimming takes away none of the characters that are not blank. -/
theorem filter_trimBlank {p : Char → Bool} (h : ∀ c, isBlank c = true → p c = false)
    (s : List Char) : (trimBlank s).filter p = s.filter p := by
  rw [trimBlank, dropTail, List.filter_reverse, filter_dropWhile h, List.filter_reverse,
    List.reverse_reverse, filter_dropWhile h]

private theorem trimBlank_eq_rdropWhile (s : List Char) :
    trimBlank s = (s.dropWhile isBlank).rdropWhile isBlank := rfl

private theorem mem_of_mem_trimBlank {c : Char} {s : List Char} (h : c ∈ trimBlank s) : c ∈ s := by
  rw [trimBlank_eq_rdropWhile] at h
  exact (List.dropWhile_sublist isBlank).mem ((List.rdropWhile_prefix isBlank _).mem h)

/-- Blank characters around a text do not count when it is trimmed. -/
theorem trimBlank_around {before after : List Char} (hbefore : ∀ c ∈ before, isBlank c = true)
    (hafter : ∀ c ∈ after, isBlank c = true) (s : List Char) :
    trimBlank (before ++ s ++ after) = trimBlank s := by
  have hback : ∀ t, dropTail isBlank (t ++ after) = dropTail isBlank t := by
    intro t
    rw [dropTail, List.reverse_append,
      List.dropWhile_append_of_pos fun c hc => hafter c (List.mem_reverse.mp hc)]
    rfl
  rw [trimBlank, List.append_assoc, List.dropWhile_append_of_pos hbefore, List.dropWhile_append]
  split
  next hblank =>
    rw [List.dropWhile_eq_nil_iff.mpr hafter, trimBlank, List.isEmpty_iff.mp hblank]
  next => rw [hback, trimBlank]

/-- Nothing is left of blank characters. -/
theorem trimBlank_eq_nil {s : List Char} (h : ∀ c ∈ s, isBlank c = true) : trimBlank s = [] := by
  rw [trimBlank, List.dropWhile_eq_nil_iff.mpr h]
  rfl

/-- A text without blank characters at its ends. -/
structure IsTrimmed (s : List Char) : Prop where
  head : ∀ c ∈ s.head?, isBlank c = false
  last : ∀ c ∈ s.getLast?, isBlank c = false

/-- What is left by trimming is trimmed. -/
theorem isTrimmed_trimBlank (s : List Char) : IsTrimmed (trimBlank s) where
  head := by
    -- the part that is left starts as the text does after its first blank characters
    obtain ⟨rest, hrest⟩ := List.rdropWhile_prefix isBlank (s.dropWhile isBlank)
    intro c hc
    have hhead : (s.dropWhile isBlank).head? = some c := by
      rw [← hrest, List.head?_append, ← trimBlank_eq_rdropWhile, Option.mem_def.mp hc,
        Option.some_or]
    have hnot := List.head?_dropWhile_not isBlank s
    rwa [hhead] at hnot
  last := by
    intro c hc
    rw [trimBlank_eq_rdropWhile] at hc
    obtain ⟨hne, rfl⟩ := List.mem_getLast?_eq_getLast hc
    simpa using List.rdropWhile_last_not isBlank _ hne

namespace IsTrimmed

private theorem trimBlank_eq_self {s : List Char} (h : IsTrimmed s) : trimBlank s = s := by
  have hfront : s.dropWhile isBlank = s := by
    rw [List.dropWhile_eq_self_iff]
    intro hpos
    simpa using h.head _ (List.head?_eq_getElem? ▸ List.getElem?_eq_getElem hpos)
  have hback : s.rdropWhile isBlank = s := by
    rw [List.rdropWhile_eq_self_iff]
    intro hne
    simpa using h.last _ (List.getLast?_eq_some_getLast hne)
  rw [trimBlank_eq_rdropWhile, hfront, hback]

/-- A text that starts and ends with trimmed texts is trimmed. -/
theorem between {front back : List Char} (hfront : IsTrimmed front) (hback : IsTrimmed back)
    (hfront' : front ≠ []) (hback' : back ≠ []) (middle : List Char) :
    IsTrimmed (front ++ middle ++ back) where
  head := by
    rw [List.append_assoc, List.head?_append_of_ne_nil _ hfront']
    exact hfront.head
  last := by
    rw [List.getLast?_append_of_ne_nil _ hback']
    exact hback.last

end IsTrimmed

/-! ### Full lines -/

private theorem lineFeed_notMem_of_mem_lines {line s : List Char} (h : line ∈ lines s) :
    '\n' ∉ line := by
  induction s generalizing line with
  | nil =>
    obtain rfl := List.mem_singleton.mp h
    exact List.not_mem_nil
  | cons c s ih =>
    simp only [lines, splitAt] at h ih
    split at h
    next hc =>
      rcases List.mem_cons.mp h with rfl | h
      · exact List.not_mem_nil
      · exact ih h
    next hc =>
      rcases List.mem_cons.mp h with rfl | h
      · rw [List.mem_cons, not_or]
        exact ⟨Ne.symm hc, ih List.mem_cons_self⟩
      · exact ih (List.mem_cons_of_mem _ h)

/-- A text that can be a full line: trimmed, not empty, and without line feeds. -/
structure IsFullLine (s : List Char) : Prop where
  full : s ≠ []
  trimmed : IsTrimmed s
  line : '\n' ∉ s

private theorem isFullLine_of_mem_fullLines {line s : List Char} (h : line ∈ fullLines s) :
    IsFullLine line := by
  obtain ⟨hmem, hfull⟩ := List.mem_filter.mp h
  obtain ⟨untrimmed, hline, rfl⟩ := List.mem_map.mp hmem
  refine ⟨by simpa using hfull, isTrimmed_trimBlank untrimmed, fun hc => ?_⟩
  exact lineFeed_notMem_of_mem_lines hline (mem_of_mem_trimBlank hc)

/-! ### Briefs -/

/-- The brief of one line is the line without the blank characters around it. -/
theorem brief_of_line {s : String} (h : '\n' ∉ s.toList) : brief s = trim s := by
  by_cases hblank : trimBlank s.toList = []
  · rw [brief, fullLines_of_blank h hblank, trim, hblank]
  · rw [brief, fullLines_of_line h hblank, trim]

/-- The brief of several lines, the first and the last of which are not blank. -/
theorem brief_of_lines {first last : String} (hfirst : '\n' ∉ first.toList)
    (hlast : '\n' ∉ last.toList) (hfull : trimBlank first.toList ≠ [])
    (hfull' : trimBlank last.toList ≠ []) (middle : String) :
    brief (first ++ "\n" ++ middle ++ "\n" ++ last) = trim first ++ " ... " ++ trim last := by
  have hlines : fullLines (first ++ "\n" ++ middle ++ "\n" ++ last).toList =
      trimBlank first.toList :: (fullLines middle.toList ++ [trimBlank last.toList]) := by
    have hchars : (first ++ "\n" ++ middle ++ "\n" ++ last).toList =
        first.toList ++ '\n' :: (middle.toList ++ '\n' :: last.toList) := by
      simp
    rw [hchars, fullLines_append_lineFeed, fullLines_append_lineFeed,
      fullLines_of_line hfirst hfull, fullLines_of_line hlast hfull', List.singleton_append]
  rw [brief, hlines]
  cases fullLines middle.toList <;> simp [trim, ← String.toList_inj]

/-- A brief is empty or a full line. -/
theorem brief_eq_empty_or_isFullLine (s : String) :
    brief s = "" ∨ IsFullLine (brief s).toList := by
  have hfull : ∀ line ∈ fullLines s.toList, IsFullLine line := fun _ => isFullLine_of_mem_fullLines
  rw [brief]
  split
  next => exact .inl rfl
  next only hlines =>
    right
    rw [String.toList_ofList]
    exact hfull only (by simp [hlines])
  next first second rest hlines =>
    right
    have hfirst : IsFullLine first := hfull first (by simp [hlines])
    have hlast : IsFullLine ((second :: rest).getLast (by simp)) :=
      hfull _ (hlines ▸ List.mem_cons_of_mem _ (List.getLast_mem _))
    rw [String.toList_ofList]
    have htrimmed := hfirst.trimmed.between hlast.trimmed hfirst.full hlast.full
    refine ⟨by simp [hfirst.full], htrimmed " ... ".toList, ?_⟩
    rw [List.mem_append, List.mem_append, not_or, not_or]
    exact ⟨⟨hfirst.line, by decide⟩, hlast.line⟩

/-- A brief has no line feed. -/
theorem lineFeed_notMem_brief (s : String) : '\n' ∉ (brief s).toList := by
  rcases brief_eq_empty_or_isFullLine s with hempty | hfull
  · simp [hempty]
  · exact hfull.line

/-- A brief has no blank characters at its ends. -/
theorem isTrimmed_brief (s : String) : IsTrimmed (brief s).toList := by
  rcases brief_eq_empty_or_isFullLine s with hempty | hfull
  · rw [hempty]
    exact ⟨by simp, by simp⟩
  · exact hfull.trimmed

/-- A brief is its own brief. -/
theorem brief_brief (s : String) : brief (brief s) = brief s := by
  rw [brief_of_line (lineFeed_notMem_brief s), trim, (isTrimmed_brief s).trimBlank_eq_self,
    String.ofList_toList]

end ApiBindings.Text
