import ApiBindings.Text.Name
import Mathlib.Tactic.SplitIfs

/-!
# Characters of names

What the conversions of names make of arbitrary text. A module name is made of letters and digits,
an identifier of letters, digits and underscores. Whether they start with a digit is up to the text:
case mappings turn no other character into a digit, and no character into nothing.
-/

namespace ApiBindings.Text

/-! ### Single characters -/

/-- What holds of all ASCII characters one by one. -/
theorem of_ascii {p : Char → Prop} (h : ∀ n < 0x80, p (Char.ofNat n)) {c : Char}
    (hc : c.toNat < 0x80) : p c := by
  have hp := h c.toNat hc
  rwa [Char.ofNat_toNat] at hp

private theorem isWordChar_toUpper {c : Char} (h : isWordChar c = true) :
    isWordChar c.toUpper = true :=
  of_ascii (p := fun c => isWordChar c = true → isWordChar c.toUpper = true) (by decide)
    (toNat_lt_of_isWordChar h) h

/-- Digits are word characters. -/
theorem isWordChar_of_isDigit {c : Char} (h : c.isDigit = true) : isWordChar c = true := by
  simp [isWordChar, Char.isAlphanum, h]

private theorem isDigit_toUpper {c : Char} (h : isWordChar c = true) :
    c.toUpper.isDigit = c.isDigit :=
  of_ascii (p := fun c => c.toUpper.isDigit = c.isDigit) (by decide) (toNat_lt_of_isWordChar h)

private theorem isDigit_ofNat {n : Nat} (h : 0x3A ≤ n) : (Char.ofNat n).isDigit = false := by
  rw [Bool.eq_false_iff]
  intro hdigit
  by_cases hvalid : n.isValidChar
  · obtain ⟨-, hhigh⟩ := Char.isDigit_iff_toNat.mp hdigit
    rw [Char.ofNat, dif_pos hvalid] at hhigh
    have hle : n ≤ 0x39 := hhigh
    omega
  · rw [Char.ofNat, dif_neg hvalid] at hdigit
    cases hdigit

private theorem isDigit_shifted {shifts : List CharShift} (h : ∀ s ∈ shifts, 0x3A ≤ s.target)
    {c : Char} (hc : c.isDigit = false) : (shifted shifts c).isDigit = false := by
  rw [shifted]
  cases himage : shifts.findSome? (·.image? c.toNat) with
  | none => exact hc
  | some n =>
    obtain ⟨s, hs, hn⟩ := List.exists_of_findSome?_eq_some himage
    rw [CharShift.image?] at hn
    split at hn
    · cases hn
      exact isDigit_ofNat (Nat.le_add_right_of_le (h s hs))
    · cases hn

/-- A character has a lower-case mapping, which starts with a digit only if it is one. -/
theorem exists_lower_eq_cons (c : Char) :
    ∃ x rest, lower c = x :: rest ∧ x.isDigit = c.isDigit := by
  by_cases hascii : c.toNat < 0x80
  · refine ⟨c.toLower, [], lower_of_ascii hascii, ?_⟩
    exact of_ascii (p := fun c => c.toLower.isDigit = c.isDigit) (by decide) hascii
  · have hc : c.isDigit = false := by
      rw [Bool.eq_false_iff]
      exact fun hdigit => hascii (toNat_lt_of_isWordChar (isWordChar_of_isDigit hdigit))
    have hexpansions : ∀ e ∈ CaseTable.lowerExpansions,
        e.2.head?.any (fun x => !x.isDigit) = true := by decide
    rw [lower, if_neg hascii, hc]
    cases hlookup : CaseTable.lowerExpansions.lookup c with
    | none => exact ⟨_, [], rfl, isDigit_shifted (by decide +kernel) hc⟩
    | some mapping =>
      obtain ⟨before, after, hentries, -⟩ := List.lookup_eq_some_iff.mp hlookup
      have hhead := hexpansions (c, mapping) (by simp [hentries])
      cases mapping with
      | nil => cases hhead
      | cons x rest => exact ⟨x, rest, rfl, by simpa using hhead⟩

/-! ### Texts -/

/-- Whether a text starts with a character that is no digit. -/
def startsOffDigit (s : List Char) : Bool := s.head?.any fun c => !c.isDigit

/-- Whether a text may stand in code as a name: letters, digits and underscores, not starting with
a digit, and not empty. -/
def IsIdentifier (s : String) : Prop :=
  startsOffDigit s.toList = true ∧ ∀ c ∈ s.toList, isWordChar c = true ∨ c = '_'

instance (s : String) : Decidable (IsIdentifier s) :=
  inferInstanceAs (Decidable (_ ∧ _))

/-- The words of a name are made of word characters. -/
theorem isWordChar_of_mem_moduleChars {start : Bool} {s : List Char} {c : Char}
    (h : c ∈ moduleChars start s) : isWordChar c = true := by
  induction s generalizing start with
  | nil => cases h
  | cons x s ih =>
    rw [moduleChars] at h
    split_ifs at h with hx hstart
    · rw [upper_of_ascii (toNat_lt_of_isWordChar hx), List.mem_append, List.mem_singleton] at h
      rcases h with rfl | h
      · exact isWordChar_toUpper hx
      · exact ih h
    · rcases List.mem_cons.mp h with rfl | h
      · exact hx
      · exact ih h
    · exact ih h

private theorem moduleChars_of_isWordChar {w : List Char} (h : ∀ c ∈ w, isWordChar c = true) :
    moduleChars false w = w := by
  induction w with
  | nil => rfl
  | cons c w ih =>
    obtain ⟨hc, hw⟩ := List.forall_mem_cons.mp h
    simp [moduleChars, hc, ih hw]

/-- A text of letters and digits is a single word, and only capitalised. -/
theorem moduleChars_true_of_isWordChar {w : List Char} (h : ∀ c ∈ w, isWordChar c = true) :
    moduleChars true w = capitalizeChars w := by
  cases w with
  | nil => rfl
  | cons c w =>
    obtain ⟨hc, hw⟩ := List.forall_mem_cons.mp h
    rw [moduleChars, if_pos hc, if_pos rfl, moduleChars_of_isWordChar hw, capitalizeChars]

/-- The words of a text start with a digit if and only if its first word character is one. -/
theorem startsOffDigit_moduleChars (s : List Char) :
    startsOffDigit (moduleChars true s) = (s.find? isWordChar).any fun c => !c.isDigit := by
  induction s with
  | nil => rfl
  | cons c s ih =>
    cases hc : isWordChar c with
    | true =>
      simp [moduleChars, hc, upper_of_ascii (toNat_lt_of_isWordChar hc), startsOffDigit,
        isDigit_toUpper hc]
    | false => simpa [moduleChars, hc] using ih

/-- A module name may stand in code if and only if the first letter or digit of its text is a
letter. -/
theorem isIdentifier_moduleName_iff {s : String} :
    IsIdentifier (moduleName s) ↔
      ((s.toList.find? isWordChar).any fun c => !c.isDigit) = true := by
  rw [IsIdentifier, moduleName, String.toList_ofList, startsOffDigit_moduleChars]
  exact and_iff_left fun c hc => .inl (isWordChar_of_mem_moduleChars hc)

/-- An identifier is made of letters, digits and underscores. -/
theorem isWordChar_or_eq_of_mem_identifier {s : String} {c : Char}
    (h : c ∈ (identifier s).toList) : isWordChar c = true ∨ c = '_' := by
  rw [identifier, String.toList_ofList, List.mem_map] at h
  obtain ⟨x, -, rfl⟩ := h
  split
  next hx => exact .inl hx
  next => exact .inr rfl

/-- An identifier starts with a digit if and only if its text does, and is empty with it. -/
theorem startsOffDigit_identifier (s : String) :
    startsOffDigit (identifier s).toList = startsOffDigit s.toList := by
  rw [identifier, String.toList_ofList]
  cases s.toList with
  | nil => rfl
  | cons c rest =>
    obtain ⟨x, more, hlower, hdigit⟩ := exists_lower_eq_cons c
    have hmapped : (if isWordChar x then x else '_').isDigit = x.isDigit := by
      split
      next => rfl
      next hx =>
        have hoff : x.isDigit = false := by
          rw [Bool.eq_false_iff]
          exact fun h => hx (isWordChar_of_isDigit h)
        rw [hoff]
        rfl
    simp [snakeChars, hlower, startsOffDigit, hmapped, hdigit]

/-- An identifier may stand in code if and only if its text starts off a digit. -/
theorem isIdentifier_identifier_iff {s : String} :
    IsIdentifier (identifier s) ↔ startsOffDigit s.toList = true := by
  rw [IsIdentifier, startsOffDigit_identifier]
  exact and_iff_left fun c => isWordChar_or_eq_of_mem_identifier

end ApiBindings.Text
