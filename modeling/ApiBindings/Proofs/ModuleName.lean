import ApiBindings.Proofs.Name

/-!
# Words of module names

The words of a text are its runs of letters and digits; every other character only separates. A
module name is the words of its text, each with its first character in upper case, and so it is a
single word that is its own module name.
-/

namespace ApiBindings.Text

/-- The words of a text: what stands between the characters that are no letters or digits, where
anything stands there. -/
def wordsOf (s : List Char) : List (List Char) :=
  (s.splitOnP fun c => !isWordChar c).filter (!·.isEmpty)

variable {s : List Char}

/-! ### Words -/

/-- What holds of texts without separators, and of a text around a separator if it holds of both of
its sides, holds of all texts. -/
theorem words_induction {motive : List Char → Prop}
    (word : ∀ w, (∀ c ∈ w, isWordChar c = true) → motive w)
    (separated : ∀ a c b, isWordChar c = false → motive a → motive b → motive (a ++ c :: b))
    (s : List Char) : motive s := by
  -- The characters before `s` may belong to a word that goes on.
  suffices h : ∀ w, (∀ c ∈ w, isWordChar c = true) → motive (w ++ s) from h [] (by simp)
  induction s with
  | nil =>
    intro w hw
    rw [List.append_nil]
    exact word w hw
  | cons c s ih =>
    intro w hw
    cases hc : isWordChar c with
    | true =>
      have hlonger := ih (w ++ [c]) (by simpa [hc, or_imp, forall_and] using hw)
      rwa [List.append_assoc, List.singleton_append] at hlonger
    | false => exact separated w c s hc (word w hw) (ih [] (by simp))

private theorem wordsOf_append_cons (a b : List Char) {c : Char} (h : isWordChar c = false) :
    wordsOf (a ++ c :: b) = wordsOf a ++ wordsOf b := by
  rw [wordsOf, List.splitOnP_append_cons _ _ (by simp [h]), List.filter_append]
  rfl

private theorem wordsOf_of_isWordChar (h : ∀ c ∈ s, isWordChar c = true) :
    wordsOf s = if s.isEmpty then [] else [s] := by
  rw [wordsOf, List.splitOnP_eq_singleton fun c hc => by simp [h c hc]]
  cases s <;> rfl

private theorem flatten_wordsOf (s : List Char) : (wordsOf s).flatten = s.filter isWordChar := by
  induction s using words_induction with
  | word w hw =>
    rw [wordsOf_of_isWordChar hw, List.filter_eq_self.mpr hw]
    cases w <;> simp
  | separated a c b hc iha ihb =>
    rw [wordsOf_append_cons a b hc, List.flatten_append, iha, ihb, List.filter_append,
      List.filter_cons_of_neg (by simp [hc])]

private theorem exists_cons_of_mem_wordsOf {w : List Char} (h : w ∈ wordsOf s) :
    ∃ c rest, w = c :: rest ∧ isWordChar c = true := by
  obtain ⟨-, hnonempty⟩ := List.mem_filter.mp h
  cases w with
  | nil => cases hnonempty
  | cons c rest =>
    refine ⟨c, rest, rfl, ?_⟩
    have hc : c ∈ (wordsOf s).flatten := List.mem_flatten.mpr ⟨_, h, List.mem_cons_self⟩
    rw [flatten_wordsOf] at hc
    exact (List.mem_filter.mp hc).2

/-! ### Capitals -/

variable {c : Char}

private theorem capitalizeChars_cons (h : isWordChar c = true) (rest : List Char) :
    capitalizeChars (c :: rest) = c.toUpper :: rest := by
  rw [capitalizeChars, upper_of_ascii (toNat_lt_of_isWordChar h), List.singleton_append]

private theorem isLower_toUpper (h : isWordChar c = true) : isLower c.toUpper = false :=
  of_ascii (p := fun c => isLower c.toUpper = false) (by decide) (toNat_lt_of_isWordChar h)

private theorem toUpper_of_isLower_eq_false (h : isWordChar c = true) (hcase : isLower c = false) :
    c.toUpper = c :=
  of_ascii (p := fun c => isLower c = false → c.toUpper = c) (by decide)
    (toNat_lt_of_isWordChar h) hcase

/-! ### Module names -/

/-- The characters of a module name are those of the words of its text, capitalised. -/
theorem moduleChars_eq_flatMap (s : List Char) :
    moduleChars true s = (wordsOf s).flatMap capitalizeChars := by
  induction s using words_induction with
  | word w hw =>
    rw [moduleChars_true_of_isWordChar hw, wordsOf_of_isWordChar hw]
    cases w <;> simp [capitalizeChars]
  | separated a c b hc iha ihb =>
    rw [moduleChars_append_cons true a b hc, wordsOf_append_cons a b hc, List.flatMap_append, iha,
      ihb]

private theorem isLower_of_mem_head?_moduleChars (h : c ∈ (moduleChars true s).head?) :
    isLower c = false := by
  rw [moduleChars_eq_flatMap] at h
  cases hwords : wordsOf s with
  | nil =>
    rw [hwords] at h
    cases h
  | cons w rest =>
    obtain ⟨first, tail, rfl, hfirst⟩ := exists_cons_of_mem_wordsOf (hwords ▸ List.mem_cons_self)
    rw [hwords, List.flatMap_cons, capitalizeChars_cons hfirst] at h
    cases h
    exact isLower_toUpper hfirst

/-- The capitalised words of a text in a row are one word, capitalised already. -/
theorem moduleChars_moduleChars (s : List Char) :
    moduleChars true (moduleChars true s) = moduleChars true s := by
  have hword : ∀ c ∈ moduleChars true s, isWordChar c = true :=
    fun c => isWordChar_of_mem_moduleChars
  rw [moduleChars_true_of_isWordChar hword]
  cases hchars : moduleChars true s with
  | nil => rfl
  | cons c rest =>
    rw [hchars] at hword
    have hc : isWordChar c = true := hword c List.mem_cons_self
    have hcase : isLower c = false := isLower_of_mem_head?_moduleChars (by rw [hchars]; rfl)
    rw [capitalizeChars_cons hc, toUpper_of_isLower_eq_false hc hcase]

/-- Module names follow the words of their texts. The module name of a text with a separator in it
is put together from those of both sides. A module name is its own module name; it is made of
letters and digits, with no letter in lower case at its start. It holds the words of its text, each
with its first character in upper case and the others as they are; these words are all the letters
and digits of the text, in order. It is empty if and only if the text has none. -/
theorem module_names_follow_words :
    (∀ (a b : String) (c : Char), isWordChar c = false →
      moduleName (a ++ String.singleton c ++ b) = moduleName a ++ moduleName b) ∧
    ∀ s : String,
      moduleName (moduleName s) = moduleName s ∧
      (∀ c ∈ (moduleName s).toList, isWordChar c = true) ∧
      (∀ c ∈ (moduleName s).toList.head?, isLower c = false) ∧
      ((wordsOf s.toList).flatten = s.toList.filter isWordChar ∧
        (moduleName s).toList = (wordsOf s.toList).flatMap capitalizeChars ∧
        ∀ w ∈ wordsOf s.toList, ∃ c rest, w = c :: rest ∧
          capitalizeChars w = c.toUpper :: rest) ∧
      (moduleName s = "" ↔ ∀ c ∈ s.toList, isWordChar c = false) := by
  have hchars : ∀ s : String, (moduleName s).toList = moduleChars true s.toList :=
    fun _ => String.toList_ofList
  refine ⟨fun a b c hc => ?_, fun s => ⟨?_, ?_, ?_, ⟨?_, ?_, ?_⟩, ?_⟩⟩
  · rw [← String.toList_inj, String.toList_append, hchars, hchars, hchars]
    simpa using moduleChars_append_cons true a.toList b.toList hc
  · rw [← String.toList_inj, hchars, hchars, moduleChars_moduleChars]
  · intro c hc
    rw [hchars] at hc
    exact isWordChar_of_mem_moduleChars hc
  · intro c hc
    rw [hchars] at hc
    exact isLower_of_mem_head?_moduleChars hc
  · exact flatten_wordsOf s.toList
  · rw [hchars, moduleChars_eq_flatMap]
  · intro w hw
    obtain ⟨c, rest, rfl, hc⟩ := exists_cons_of_mem_wordsOf hw
    exact ⟨c, rest, rfl, capitalizeChars_cons hc rest⟩
  · rw [moduleName, String.ofList_eq_empty_iff, moduleChars_eq_nil_iff]

/-- A letter beyond ASCII separates words as a blank does, and a word may start with a digit. -/
theorem kelvin_separates_module_names :
    isWordChar '\u212a' = false ∧
      moduleName ("load bal" ++ String.singleton '\u212a' ++ "ancing-2fa") =
        moduleName "load bal" ++ moduleName "ancing-2fa" ∧
      moduleName "load bal\u212aancing-2fa" = "LoadBalAncing2fa" ∧
      moduleName "LoadBalAncing2fa" = "LoadBalAncing2fa" := by
  obtain ⟨happend, hname⟩ := module_names_follow_words
  have hseparates : isWordChar '\u212a' = false := by decide
  have hloads : moduleName "load bal\u212aancing-2fa" = "LoadBalAncing2fa" := by decide
  refine ⟨hseparates, happend "load bal" "ancing-2fa" '\u212a' hseparates, hloads, ?_⟩
  rw [← hloads]
  exact (hname "load bal\u212aancing-2fa").1

end ApiBindings.Text
