import ApiBindings.Json.Value

/-!
# Text read back

The bytes of a text are read as the text. A written string is read back to the text it was written
from: each of its characters is one piece of a literal, and control characters without an escape of
their own are code units.
-/

namespace ApiBindings.Json

namespace Literal

/-- The piece of a literal that a written character is. -/
def pieceOf (c : Char) : Piece :=
  if c.toNat < 0x20 ∧ c ∉ ['\x08', '\x0c', '\n', '\r', '\t'] then .unit c.toNat else .char c

/-- The literal that a text is written as. -/
def ofText (s : String) : Literal := ⟨s.toList.map pieceOf, .quote⟩

private theorem hexDigit?_digitChar {n : Nat} (h : n < 16) :
    hexDigit? (.char (Nat.digitChar n)) = some n := by
  have hall : ∀ n < 16, hexDigit? (.char (Nat.digitChar n)) = some n := by decide
  exact hall n h

private theorem unit?_digits {c : Char} (h : c.toNat < 0x20) :
    unit? (.char '0') (.char '0') (.char (Nat.digitChar (c.toNat / 16)))
      (.char (Nat.digitChar (c.toNat % 16))) = some c.toNat := by
  have hzero : hexDigit? (.char '0') = some 0 := rfl
  have hhigh := hexDigit?_digitChar (n := c.toNat / 16) (by omega)
  have hlow := hexDigit?_digitChar (n := c.toNat % 16) (by omega)
  simp only [unit?, hzero, hhigh, hlow, Option.bind_eq_bind, Option.bind_some, Option.pure_def]
  congr 1
  omega

private theorem scan_escapedChar (read : List Piece) (c : Char) (rest : List Symbol) :
    scan read ((Value.escapedChar c).map .char ++ rest) = scan (pieceOf c :: read) rest := by
  unfold Value.escapedChar
  split
  · rfl
  · rfl
  · rfl
  · rfl
  · rfl
  · rfl
  · rfl
  next hquote hbackslash hb hf hn hr ht =>
    split
    next hcontrol =>
      have hpiece : pieceOf c = .unit c.toNat := by
        rw [pieceOf, if_pos]
        refine ⟨hcontrol, ?_⟩
        simp only [List.mem_cons, List.not_mem_nil, or_false, not_or]
        exact ⟨hb, hf, hn, hr, ht⟩
      simp [scan, unit?_digits hcontrol, hpiece]
    next hcontrol =>
      have hpiece : pieceOf c = .char c := by
        simp [pieceOf, hcontrol]
      rw [List.map_singleton, List.singleton_append, scan, if_neg hcontrol, hpiece]
      · exact hquote
      all_goals
        intros
        exact hbackslash ‹_›

/-- A written text is one literal. -/
theorem scan_escapedChars (s : List Char) (read : List Piece) (rest : List Symbol) :
    scan read ((s.flatMap Value.escapedChar).map .char ++ .char '"' :: rest) =
      (⟨read.reverse ++ s.map pieceOf, .quote⟩, rest) := by
  induction s generalizing read with
  | nil => simp [scan]
  | cons c s ih =>
    rw [List.flatMap_cons, List.map_append, List.append_assoc, scan_escapedChar, ih]
    simp

private theorem joined_pieceOf (c : Char) (read : List Char) (rest : List Piece) :
    joined .quote false read (pieceOf c :: rest) = joined .quote false (c :: read) rest := by
  unfold pieceOf
  split
  next h =>
    have hlow : isLow c.toNat = false := by
      simp only [isLow, Bool.and_eq_false_iff, decide_eq_false_iff_not]
      omega
    have hhigh : isHigh c.toNat = false := by
      simp only [isHigh, Bool.and_eq_false_iff, decide_eq_false_iff_not]
      omega
    rw [joined.eq_def]
    simp only [hlow, hhigh, Bool.false_eq_true, if_false, Char.ofNat_toNat]
  next => rfl

/-- A written text stands for itself. -/
theorem text_ofText (s : String) : (ofText s).text = .ok s := by
  have hjoined : ∀ (cs read : List Char),
      joined .quote false read (cs.map pieceOf) = .ok (read.reverse ++ cs) := by
    intro cs
    induction cs with
    | nil => intro read; simp [joined, spellingFault?]
    | cons c cs ih => intro read; rw [List.map_cons, joined_pieceOf, ih]; simp
  rw [text, ofText, hjoined]
  simp [Except.map]

end Literal

/-- The bytes of a text hold the symbols of the text. -/
theorem symbolsOfBytes_toUTF8 (text : String) :
    symbolsOfBytes text.toUTF8 = symbolsOfText text := by
  have hfrom : ∀ (rest before : List Char) (read : List Symbol),
      symbolsFrom (before ++ rest).utf8Encode read before.utf8Encode.size =
        read.reverse ++ rest.map .char := by
    intro rest
    induction rest with
    | nil =>
      intro before read
      rw [List.append_nil, symbolsFrom, if_neg (Nat.lt_irrefl _), List.map_nil, List.append_nil]
    | cons c rest ih =>
      intro before read
      have hdecode : (before ++ c :: rest).utf8Encode.utf8DecodeChar? before.utf8Encode.size =
          some c := by
        rw [ByteArray.utf8DecodeChar?_eq_utf8DecodeChar?_extract, List.utf8Encode_append,
          ByteArray.extract_append_eq_right rfl ByteArray.size_append]
        exact List.utf8DecodeChar?_utf8Encode_cons
      have hsize : (before ++ [c]).utf8Encode.size = before.utf8Encode.size + c.utf8Size := by
        simp [List.utf8Encode]
      have hlt : before.utf8Encode.size < (before ++ c :: rest).utf8Encode.size := by
        have hpos := c.utf8Size_pos
        rw [List.append_cons, List.utf8Encode_append, ByteArray.size_append, hsize]
        omega
      have hnext := ih (before ++ [c]) (.char c :: read)
      rw [List.append_assoc, List.singleton_append, hsize] at hnext
      rw [symbolsFrom, if_pos hlt, hdecode]
      simp only [hnext]
      simp
  have hwhole := hfrom text.toList [] []
  rw [symbolsOfBytes, symbolsOfText, String.toUTF8_eq_toByteArray, ← String.utf8Encode_toList]
  exact hwhole

end ApiBindings.Json
