/-!
# Blank characters

White space, trimming, and the lines of a text. A line ends at a line feed; the carriage return
that may stand before it is itself blank, so no caller of this library needs to cut it off.
-/

namespace ApiBindings.Text

/-- Whether a character has the property White_Space. -/
def isBlank (c : Char) : Bool :=
  let p := c.toNat
  (0x09 ≤ p && p ≤ 0x0D) || (0x2000 ≤ p && p ≤ 0x200A) ||
    [0x20, 0x85, 0xA0, 0x1680, 0x2028, 0x2029, 0x202F, 0x205F, 0x3000].contains p

/-- A list without the elements at its end that satisfy `p`. -/
def dropTail {α : Type} (p : α → Bool) (s : List α) : List α :=
  (s.reverse.dropWhile p).reverse

/-- Nothing is added by dropping elements at the end. -/
theorem length_dropTail {α : Type} (p : α → Bool) (s : List α) :
    (dropTail p s).length ≤ s.length := by
  have h := (List.dropWhile_suffix (l := s.reverse) p).length_le
  simpa [dropTail] using h

/-- Removes blank characters at both ends. -/
def trimBlank (s : List Char) : List Char :=
  dropTail isBlank (s.dropWhile isBlank)

/-- Removes blank characters at both ends of a text. -/
def trim (s : String) : String :=
  String.ofList (trimBlank s.toList)

/-- The pieces of a text between separators: the first one and the others. -/
def splitAt (separator : Char) : List Char → List Char × List (List Char)
  | [] => ([], [])
  | c :: rest =>
    let (first, others) := splitAt separator rest
    if c = separator then ([], first :: others) else (c :: first, others)

/-- A text without a separator is in one piece. -/
theorem splitAt_of_notMem {separator : Char} {s : List Char} (h : separator ∉ s) :
    splitAt separator s = (s, []) := by
  induction s with
  | nil => rfl
  | cons c s ih =>
    simp only [List.mem_cons, not_or] at h
    simp only [splitAt, ih h.2, if_neg (Ne.symm h.1)]

/-- The pieces of a text between line feeds. -/
def lines (s : List Char) : List (List Char) :=
  (splitAt '\n' s).1 :: (splitAt '\n' s).2

end ApiBindings.Text
