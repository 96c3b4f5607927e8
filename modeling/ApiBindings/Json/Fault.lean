import ApiBindings.Json.Numeral
import ApiBindings.Text.Quoted

/-!
# Faults of a document

Why a document cannot be read: its text ends early, its syntax is wrong, or it holds data of a
kind that is not wanted. A fault carries its cause; its wording is `Fault.message`.
-/

namespace ApiBindings.Json

/-- What a document holds where something else is wanted. -/
inductive Found where
  | null
  | boolean (b : Bool)
  | number (n : Number)
  | string (s : String)
  | sequence
  | map
  deriving DecidableEq, Repr

/-- A description of what was found. -/
def Found.text : Found → String
  | .null => "null"
  | .boolean b => "boolean \x60" ++ (if b then "true" else "false") ++ "\x60"
  | .number (.integer n) => "integer \x60" ++ toString n ++ "\x60"
  | .number (.decimal d) => "floating point \x60" ++ d.text ++ "\x60"
  | .string s => "string " ++ Text.quoted s
  | .sequence => "sequence"
  | .map => "map"

/-- The cause for which reading a document stops. -/
inductive Fault where
  /-- The document ends where a value is due, or inside a word or a number. -/
  | endInValue
  /-- The document ends inside an array. -/
  | endInArray
  /-- The document ends inside an object. -/
  | endInObject
  /-- The document ends inside a string. -/
  | endInString
  /-- Nothing that starts a value. -/
  | valueExpected
  /-- A misspelled `null`, `true` or `false`. -/
  | wordExpected
  /-- No colon after a key. -/
  | colonExpected
  /-- Neither a comma nor the end of the array after an element. -/
  | arrayUnseparated
  /-- Neither a comma nor the end of the object after an entry. -/
  | objectUnseparated
  /-- A comma before the closing bracket. -/
  | trailingComma
  /-- More text after the end. -/
  | trailingSymbols
  /-- A key that is not a string. -/
  | keyNotString
  /-- An escape that does not exist. -/
  | escapeUnknown
  /-- A number with a missing digit or a leading zero. -/
  | numberMalformed
  /-- A number too great for a double. -/
  | numberTooGreat
  /-- A control character in a string. -/
  | controlSymbol
  /-- The first half of a surrogate pair, with no escape after it. -/
  | surrogateUnpaired
  /-- Half of a surrogate pair beside an escape that is not the other half. -/
  | surrogateMispaired
  /-- A string with bytes that encode no character. -/
  | encodingInvalid
  /-- Arrays and objects nested too deeply. -/
  | nestedTooDeeply
  /-- A value of another type than the wanted one. -/
  | wrongType (found : Found) (wanted : String)
  /-- A name that is none of the known ones. -/
  | unknownName (name : String) (known : List String)
  /-- A record without a field that it needs. -/
  | missingField (name : String)
  /-- A record with a field given twice. -/
  | duplicateField (name : String)
  /-- A record written as an array that ends before the element at `index`. -/
  | missingElement (index : Nat) (record : String) (size : Nat)
  /-- A record that breaks a rule of its own. -/
  | ruleBroken (reason : String)
  deriving DecidableEq, Repr

/-- The three sorts of faults. -/
inductive Fault.Category where
  | ended
  | malformed
  | unwanted
  deriving DecidableEq, Repr

namespace Fault

/-- The sort of a fault. -/
def category : Fault → Category
  | endInValue | endInArray | endInObject | endInString => .ended
  | wrongType .. | unknownName .. | missingField _ | duplicateField _ | missingElement .. |
    ruleBroken _ => .unwanted
  | _ => .malformed

/-- A word between backquotes. -/
def ticked (s : String) : String := "\x60" ++ s ++ "\x60"

/-- The wording of a fault. -/
def message : Fault → String
  | endInValue => "EOF while parsing a value"
  | endInArray => "EOF while parsing a list"
  | endInObject => "EOF while parsing an object"
  | endInString => "EOF while parsing a string"
  | valueExpected => "expected value"
  | wordExpected => "expected ident"
  | colonExpected => "expected " ++ ticked ":"
  | arrayUnseparated => "expected " ++ ticked "," ++ " or " ++ ticked "]"
  | objectUnseparated => "expected " ++ ticked "," ++ " or " ++ ticked "\x7d"
  | trailingComma => "trailing comma"
  | trailingSymbols => "trailing characters"
  | keyNotString => "key must be a string"
  | escapeUnknown => "invalid escape"
  | numberMalformed => "invalid number"
  | numberTooGreat => "number out of range"
  | controlSymbol => "control character (\\u0000-\\u001F) found while parsing a string"
  | surrogateUnpaired => "unexpected end of hex escape"
  | surrogateMispaired => "lone leading surrogate in hex escape"
  | encodingInvalid => "invalid unicode code point"
  | nestedTooDeeply => "recursion limit exceeded"
  | wrongType found wanted => "invalid type: " ++ found.text ++ ", expected " ++ wanted
  | unknownName name known =>
    "unknown variant " ++ ticked name ++ ", expected one of " ++
      ", ".intercalate (known.map ticked)
  | missingField name => "missing field " ++ ticked name
  | duplicateField name => "duplicate field " ++ ticked name
  | missingElement index record size =>
    "invalid length " ++ toString index ++ ", expected struct " ++ record ++ " with " ++
      toString size ++ if size = 1 then " element" else " elements"
  | ruleBroken reason => reason

end Fault

end ApiBindings.Json
