/-!
# Symbols of a document

A document is read symbol by symbol. Text yields its characters; bytes yield the characters they
encode in UTF-8, and a stray symbol for every byte that belongs to no character.
-/

namespace ApiBindings.Json

/-- A character, or a byte that is part of no character's encoding. -/
inductive Symbol where
  | char (c : Char)
  | stray
  deriving DecidableEq, Repr

/-- The number of bytes a symbol takes. -/
def Symbol.width : Symbol → Nat
  | .char c => c.utf8Size
  | .stray => 1

/-- The symbols of a text. -/
def symbolsOfText (text : String) : List Symbol :=
  text.toList.map .char

/-- The symbols from an index on, behind those read so far in reverse. -/
def symbolsFrom (bytes : ByteArray) (read : List Symbol) (i : Nat) : List Symbol :=
  if i < bytes.size then
    match bytes.utf8DecodeChar? i with
    | some c => symbolsFrom bytes (.char c :: read) (i + c.utf8Size)
    | none => symbolsFrom bytes (.stray :: read) (i + 1)
  else read.reverse
termination_by bytes.size - i
decreasing_by
  · have := c.utf8Size_pos
    omega
  · omega

/-- The symbols of a sequence of bytes. -/
def symbolsOfBytes (bytes : ByteArray) : List Symbol :=
  symbolsFrom bytes [] 0

/-- The blanks that may stand between tokens. -/
def Symbol.isBlank : Symbol → Bool
  | .char c => c == ' ' || c == '\t' || c == '\n' || c == '\r'
  | .stray => false

end ApiBindings.Json
