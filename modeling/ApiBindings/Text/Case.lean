import ApiBindings.Text.CaseTable

/-!
# Letter case

Case tests and case mappings of single characters. A mapping may yield several characters, and it
never looks at the neighbours of its argument.
-/

namespace ApiBindings.Text

/-- Whether a character has the property Lowercase. -/
def isLower (c : Char) : Bool :=
  if c.toNat < 0x80 then c.isLower else CaseTable.lowercase.any (·.contains c.toNat)

/-- Whether a character has the property Uppercase. -/
def isUpper (c : Char) : Bool :=
  if c.toNat < 0x80 then c.isUpper else CaseTable.uppercase.any (·.contains c.toNat)

/-- The image of a character under the first shift that moves it, else the character itself. -/
def shifted (shifts : List CharShift) (c : Char) : Char :=
  ((shifts.findSome? (·.image? c.toNat)).map Char.ofNat).getD c

/-- The full lower-case mapping. -/
def lower (c : Char) : List Char :=
  if c.toNat < 0x80 then [c.toLower]
  else (CaseTable.lowerExpansions.lookup c).getD [shifted CaseTable.lowerShifts c]

/-- The full upper-case mapping. -/
def upper (c : Char) : List Char :=
  if c.toNat < 0x80 then [c.toUpper]
  else (CaseTable.upperExpansions.lookup c).getD [shifted CaseTable.upperShifts c]

/-- On ASCII the lower-case mapping is that of a single letter. -/
theorem lower_of_ascii {c : Char} (h : c.toNat < 0x80) : lower c = [c.toLower] := by
  simp [lower, h]

/-- On ASCII the upper-case mapping is that of a single letter. -/
theorem upper_of_ascii {c : Char} (h : c.toNat < 0x80) : upper c = [c.toUpper] := by
  simp [upper, h]

end ApiBindings.Text
