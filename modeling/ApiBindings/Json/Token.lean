import ApiBindings.Json.Literal

/-!
# Tokens of a document

A document is a sequence of punctuation marks and simple values. Cutting it into tokens never
fails: what is no token becomes a broken value, which ends the sequence, and so does a literal or
numeral that is itself broken.
-/

namespace ApiBindings.Json

/-- A value without parts, as a document spells it. It is absent where the document ends before
it begins. -/
inductive Leaf where
  | absent
  | null
  | boolean (b : Bool)
  | number (n : Except NumeralFlaw Numeral)
  | string (l : Literal)
  | broken (fault : Fault)

/-- A punctuation mark or a simple value. -/
inductive Token where
  | openArray
  | closeArray
  | openObject
  | closeObject
  | comma
  | colon
  | leaf (l : Leaf)

namespace Token

/-- Matches the letters of a word; a word that differs is a fault, as is the document's end. -/
def scanWord : List Char → List Symbol → Except Fault (List Symbol)
  | [], source => .ok source
  | _ :: _, [] => .error .endInValue
  | c :: word, s :: rest => if s = .char c then scanWord word rest else .error .wordExpected

private theorem length_of_scanWord {word : List Char} {source rest : List Symbol}
    (h : scanWord word source = .ok rest) : rest.length ≤ source.length := by
  fun_induction scanWord word source with
  | case1 => cases h; exact Nat.le_refl _
  | case2 => cases h
  | case3 _ _ _ ih => exact Nat.le_succ_of_le (ih h)
  | case4 => cases h

/-- A word's value and what follows it. -/
def word (letters : List Char) (value : Leaf) (source : List Symbol) : Leaf × List Symbol :=
  match scanWord letters source with
  | .ok rest => (value, rest)
  | .error fault => (.broken fault, [])

/-- The simple value that starts with a given character, and what follows it. -/
def scanLeaf (c : Char) (rest : List Symbol) : Leaf × List Symbol :=
  if c = '"' then
    let (l, rest) := Literal.scan [] rest
    (.string l, rest)
  else if c = '-' ∨ c.isDigit then
    match Numeral.scan (.char c :: rest) with
    | .ok (n, rest) => (.number (.ok n), rest)
    | .error flaw => (.number (.error flaw), [])
  else if c = 'n' then word "ull".toList .null rest
  else if c = 't' then word "rue".toList (.boolean true) rest
  else if c = 'f' then word "alse".toList (.boolean false) rest
  else (.broken .valueExpected, [])

private theorem length_scanLeaf (c : Char) (rest : List Symbol) :
    (scanLeaf c rest).2.length ≤ rest.length := by
  have hword (letters : List Char) (value : Leaf) :
      (word letters value rest).2.length ≤ rest.length := by
    unfold word
    split
    next h => exact length_of_scanWord h
    next => exact Nat.zero_le _
  unfold scanLeaf
  split
  · exact Literal.length_scan [] rest
  split
  · split
    next h => exact Nat.le_of_lt_succ (Numeral.length_scan h)
    next => exact Nat.zero_le _
  split
  · exact hword _ _
  split
  · exact hword _ _
  split
  · exact hword _ _
  · exact Nat.zero_le _

/-- The punctuation mark that a character is. -/
def mark? : Char → Option Token
  | '[' => some .openArray
  | ']' => some .closeArray
  | '{' => some .openObject
  | '}' => some .closeObject
  | ',' => some .comma
  | ':' => some .colon
  | _ => none

/-- The tokens of a document, behind those read so far in reverse. -/
def scanFrom (read : List Token) (source : List Symbol) : List Token :=
  match source with
  | [] => read.reverse
  | .stray :: _ => (.leaf (.broken .valueExpected) :: read).reverse
  | .char c :: rest =>
    if (Symbol.char c).isBlank then scanFrom read rest
    else match mark? c with
      | some mark => scanFrom (mark :: read) rest
      | none => scanFrom (.leaf (scanLeaf c rest).1 :: read) (scanLeaf c rest).2
termination_by source.length
decreasing_by
  · simp
  · simp
  · exact Nat.lt_succ_of_le (length_scanLeaf c rest)

/-- The tokens of a document. -/
def scan (source : List Symbol) : List Token :=
  scanFrom [] source

end Token

end ApiBindings.Json
