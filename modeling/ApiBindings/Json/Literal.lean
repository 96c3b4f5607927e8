import ApiBindings.Json.Fault

/-!
# String literals

The spelling of a string in a document and the text it stands for. A literal is first cut out of
the document, up to its closing quote or the first symbol that no literal may hold. It is then
read: escaped code units are joined to characters, which must leave no half of a surrogate pair.
-/

namespace ApiBindings.Json

/-- A part of a literal: a character, bytes that encode none, or a code unit escaped by its
number. -/
inductive Piece where
  | char (c : Char)
  | stray
  | unit (n : Nat)
  deriving DecidableEq, Repr

/-- How a literal ends: with its quote, with the document, or before a control character, an
unknown escape or an escaped code unit with a wrong digit. -/
inductive Closing where
  | quote
  | documentEnd
  | control
  | badEscape
  | badDigit
  deriving DecidableEq, Repr

/-- A string as a document spells it. -/
structure Literal where
  pieces : List Piece
  closing : Closing
  deriving DecidableEq, Repr

namespace Literal

/-- The character that an escape of one letter stands for. -/
def escaped? : Char → Option Char
  | '"' => some '"'
  | '\\' => some '\\'
  | '/' => some '/'
  | 'b' => some '\x08'
  | 'f' => some '\x0c'
  | 'n' => some '\n'
  | 'r' => some '\r'
  | 't' => some '\t'
  | _ => none

/-- The value of a hexadecimal digit in either case. -/
def hexDigit? : Symbol → Option Nat
  | .char c =>
    if c.isDigit then some (c.toNat - '0'.toNat)
    else if 'a' ≤ c ∧ c ≤ 'f' then some (c.toNat - 'a'.toNat + 10)
    else if 'A' ≤ c ∧ c ≤ 'F' then some (c.toNat - 'A'.toNat + 10)
    else none
  | .stray => none

/-- The code unit that four hexadecimal digits spell. -/
def unit? (a b c d : Symbol) : Option Nat := do
  return (← hexDigit? a) * 0x1000 + (← hexDigit? b) * 0x100 + (← hexDigit? c) * 0x10 +
    (← hexDigit? d)

/-- Why four digits are not there: too little is left of the document to hold them, or it holds
something else. -/
def digitsClosing (source : List Symbol) : Closing :=
  if source.foldl (fun n s => n + s.width) 0 < 4 then .documentEnd else .badDigit

/-- Cuts out the literal whose opening quote has been read, given the pieces so far in reverse. -/
def scan (read : List Piece) : List Symbol → Literal × List Symbol
  | [] => (⟨read.reverse, .documentEnd⟩, [])
  | .char '"' :: rest => (⟨read.reverse, .quote⟩, rest)
  | .char '\\' :: .char 'u' :: a :: b :: c :: d :: rest =>
    match unit? a b c d with
    | some n => scan (.unit n :: read) rest
    | none => (⟨read.reverse, .badDigit⟩, [])
  | .char '\\' :: .char 'u' :: rest => (⟨read.reverse, digitsClosing rest⟩, [])
  | .char '\\' :: .char e :: rest =>
    match escaped? e with
    | some c => scan (.char c :: read) rest
    | none => (⟨read.reverse, .badEscape⟩, [])
  | .char '\\' :: .stray :: _ => (⟨read.reverse, .badEscape⟩, [])
  | .char '\\' :: [] => (⟨read.reverse, .documentEnd⟩, [])
  | .char c :: rest =>
    if c.toNat < 0x20 then (⟨read.reverse, .control⟩, []) else scan (.char c :: read) rest
  | .stray :: rest => scan (.stray :: read) rest

/-- A literal adds no symbols. -/
theorem length_scan (read : List Piece) (source : List Symbol) :
    (scan read source).2.length ≤ source.length := by
  fun_induction scan read source <;> simp_all <;> omega

/-- What is wrong with a literal's spelling, whatever text it stands for. -/
def spellingFault? (l : Literal) : Option Fault :=
  match l.closing with
  | .quote => none
  | .documentEnd => some .endInString
  | .control => some .controlSymbol
  | .badEscape | .badDigit => some .escapeUnknown

/-- The fault of a literal that ends right after the first half of a surrogate pair. -/
def unpairedFault : Closing → Fault
  | .documentEnd => .endInString
  | .badDigit => .escapeUnknown
  | .quote | .control | .badEscape => .surrogateUnpaired

/-- Whether a code unit is the first half of a surrogate pair. -/
def isHigh (n : Nat) : Bool := 0xD800 ≤ n && n ≤ 0xDBFF

/-- Whether a code unit is the second half of a surrogate pair. -/
def isLow (n : Nat) : Bool := 0xDC00 ≤ n && n ≤ 0xDFFF

/-- The character of a surrogate pair. -/
def paired (high low : Nat) : Char :=
  Char.ofNat (0x10000 + (high - 0xD800) * 0x400 + (low - 0xDC00))

/-- Joins the pieces of a literal to characters, given those so far in reverse and whether they
hold stray bytes. Stray bytes are a fault of the whole literal, noticed at its closing quote. -/
def joined (closing : Closing) (impure : Bool) (read : List Char) :
    List Piece → Except Fault (List Char)
  | [] =>
    match (⟨[], closing⟩ : Literal).spellingFault? with
    | some fault => .error fault
    | none => if impure then .error .encodingInvalid else .ok read.reverse
  | .char c :: rest => joined closing impure (c :: read) rest
  | .stray :: rest => joined closing true read rest
  | .unit n :: rest =>
    if isLow n then .error .surrogateMispaired
    else if isHigh n then
      match rest with
      | .unit m :: rest =>
        if isLow m then joined closing impure (paired n m :: read) rest
        else .error .surrogateMispaired
      | [] => .error (unpairedFault closing)
      | _ => .error .surrogateUnpaired
    else joined closing impure (Char.ofNat n :: read) rest

/-- The text that a literal stands for. -/
def text (l : Literal) : Except Fault String :=
  (joined l.closing false [] l.pieces).map String.ofList

end Literal

end ApiBindings.Json
