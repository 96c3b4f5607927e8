import ApiBindings.Text.Case

/-!
# Names in generated code

Conversions between the spellings of a name: snake case for functions, identifiers made of
letters, digits and underscores, and capitalised module names. Case follows the full Unicode
mappings; what counts as a letter or digit of an identifier is ASCII.
-/

namespace ApiBindings.Text

/-- Snake case of the characters that follow one which is lower case or not. -/
def snakeChars (afterLower : Bool) : List Char → List Char
  | [] => []
  | c :: rest =>
    let tail := lower c ++ snakeChars (isLower c) rest
    if isUpper c && afterLower then '_' :: tail else tail

/-- A name in snake case: lower-cased throughout, with an underscore wherever an upper-case
character follows a lower-case one. Runs of capitals stay together. -/
def snakeCase (name : String) : String :=
  String.ofList (snakeChars false name.toList)

/-- Whether a character is an ASCII letter or digit. -/
def isWordChar (c : Char) : Bool := c.isAlphanum

/-- A name in snake case with an underscore for every character that no identifier may hold. -/
def identifier (name : String) : String :=
  String.ofList ((snakeChars false name.toList).map fun c => if isWordChar c then c else '_')

/-- Upper-cases the first character. -/
def capitalizeChars : List Char → List Char
  | [] => []
  | c :: rest => upper c ++ rest

/-- A name with its first character in upper case. -/
def capitalize (name : String) : String :=
  String.ofList (capitalizeChars name.toList)

/-- Concatenated words of a name, each capitalised; a character that belongs to no word ends
one. The flag tells whether the next character starts a word. -/
def moduleChars (atStart : Bool) : List Char → List Char
  | [] => []
  | c :: rest =>
    if isWordChar c then
      if atStart then upper c ++ moduleChars false rest else c :: moduleChars false rest
    else moduleChars true rest

/-- The module name of a display name: its words, capitalised and run together. -/
def moduleName (name : String) : String :=
  String.ofList (moduleChars true name.toList)

/-- Characters outside every word only separate: a text splits at each of them. -/
theorem moduleChars_append_cons (start : Bool) (a b : List Char) {c : Char}
    (h : isWordChar c = false) :
    moduleChars start (a ++ c :: b) = moduleChars start a ++ moduleChars true b := by
  induction a generalizing start with
  | nil => simp [moduleChars, h]
  | cons x a ih =>
    by_cases hx : isWordChar x <;> cases start <;> simp [moduleChars, hx, ih]

/-- Word characters are ASCII. -/
theorem toNat_lt_of_isWordChar {c : Char} (h : isWordChar c = true) : c.toNat < 0x80 := by
  delta isWordChar Char.isAlphanum Char.isAlpha Char.isUpper Char.isLower Char.isDigit at h
  simp only [Bool.or_eq_true, Bool.and_eq_true, decide_eq_true_eq, UInt32.le_iff_toNat_le,
    ge_iff_le] at h
  change ((65 ≤ c.toNat ∧ c.toNat ≤ 90) ∨ (97 ≤ c.toNat ∧ c.toNat ≤ 122)) ∨
    (48 ≤ c.toNat ∧ c.toNat ≤ 57) at h
  omega

/-- Only a text without word characters has no words. -/
theorem moduleChars_eq_nil_iff {start : Bool} {s : List Char} :
    moduleChars start s = [] ↔ ∀ c ∈ s, isWordChar c = false := by
  induction s generalizing start with
  | nil => simp [moduleChars]
  | cons c s ih =>
    cases hc : isWordChar c with
    | false => simp [moduleChars, hc, ih]
    | true =>
      have hupper := upper_of_ascii (toNat_lt_of_isWordChar hc)
      cases start <;> simp [moduleChars, hc, hupper]

end ApiBindings.Text
