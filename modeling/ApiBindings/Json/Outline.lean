import ApiBindings.Json.Token

/-!
# Outlines of documents

The outline of a document is its syntax as far as it can be followed. Whatever is wrong with the
syntax stands in the outline at its place: a simple value that is broken, or an array or object
with a flawed end. A reader that walks the outline from left to right therefore meets the faults
of the syntax, and those of the data, in the order of the document.

Building an outline needs no recursion on nesting: the containers that are still open are kept in
a stack of frames.
-/

namespace ApiBindings.Json

/-- How an array ends: with its bracket, with the document, where neither a comma nor a bracket
follows an element, or after a comma, with the document or with the bracket. -/
inductive ArrayEnd where
  | closed
  | documentEnd
  | unseparated
  | documentEndAfterComma
  | trailingComma
  deriving DecidableEq

/-- How an object ends. Besides the ends of an array there may be a key that is not a string, or
a key with no colon behind it. -/
inductive ObjectEnd where
  | closed
  | documentEnd
  | unseparated
  | documentEndAfterComma
  | trailingComma
  | keyNotString
  | bareKey (key : Literal) (last : Bool)
  deriving DecidableEq

/-- The syntax of a value. -/
inductive Outline where
  | leaf (l : Leaf)
  | array (items : List Outline) (ending : ArrayEnd)
  | object (entries : List (Literal × Outline)) (ending : ObjectEnd)

/-- An open container with what it holds so far, in reverse, and the key whose value is due. -/
inductive Frame where
  | array (items : List Outline)
  | object (entries : List (Literal × Outline)) (key : Literal)

namespace Outline

/-- Closes every open container around a flawed value. Their ends are never reached by a reader. -/
def abandon (o : Outline) : List Frame → Outline
  | [] => o
  | .array items :: frames => abandon (.array (o :: items).reverse .documentEnd) frames
  | .object entries key :: frames =>
    abandon (.object ((key, o) :: entries).reverse .documentEnd) frames

mutual

/-- Follows a value inside the given frames. The flag in the answer tells whether the document
ends with its value. -/
def value (frames : List Frame) : List Token → Outline × Bool
  | [] => (abandon (.leaf .absent) frames, true)
  | .leaf l :: rest => place frames (.leaf l) rest
  | .openArray :: [] => (abandon (.array [] .documentEnd) frames, true)
  | .openArray :: .closeArray :: rest => place frames (.array [] .closed) rest
  | .openArray :: rest => value (.array [] :: frames) rest
  | .openObject :: [] => (abandon (.object [] .documentEnd) frames, true)
  | .openObject :: .closeObject :: rest => place frames (.object [] .closed) rest
  | .openObject :: rest => entry frames [] rest
  | _ :: _ => (abandon (.leaf (.broken .valueExpected)) frames, true)

/-- Follows the key of an object's next entry, which must be there. -/
def entry (frames : List Frame) (entries : List (Literal × Outline)) :
    List Token → Outline × Bool
  | [] => (abandon (.object entries.reverse .documentEndAfterComma) frames, true)
  | .closeObject :: _ => (abandon (.object entries.reverse .trailingComma) frames, true)
  | .leaf (.string key) :: .colon :: rest => value (.object entries key :: frames) rest
  | .leaf (.string key) :: rest =>
    (abandon (.object entries.reverse (.bareKey key rest.isEmpty)) frames, true)
  | _ :: _ => (abandon (.object entries.reverse .keyNotString) frames, true)

/-- Puts a value where it belongs and follows what comes behind it. -/
def place : List Frame → Outline → List Token → Outline × Bool
  | [], o, rest => (o, rest.isEmpty)
  | .array items :: frames, o, [] =>
    (abandon (.array (o :: items).reverse .documentEnd) frames, true)
  | .array items :: frames, o, .closeArray :: rest =>
    place frames (.array (o :: items).reverse .closed) rest
  | .array items :: frames, o, .comma :: [] =>
    (abandon (.array (o :: items).reverse .documentEndAfterComma) frames, true)
  | .array items :: frames, o, .comma :: .closeArray :: _ =>
    (abandon (.array (o :: items).reverse .trailingComma) frames, true)
  | .array items :: frames, o, .comma :: rest => value (.array (o :: items) :: frames) rest
  | .array items :: frames, o, _ :: _ =>
    (abandon (.array (o :: items).reverse .unseparated) frames, true)
  | .object entries key :: frames, o, [] =>
    (abandon (.object ((key, o) :: entries).reverse .documentEnd) frames, true)
  | .object entries key :: frames, o, .closeObject :: rest =>
    place frames (.object ((key, o) :: entries).reverse .closed) rest
  | .object entries key :: frames, o, .comma :: rest => entry frames ((key, o) :: entries) rest
  | .object entries key :: frames, o, _ :: _ =>
    (abandon (.object ((key, o) :: entries).reverse .unseparated) frames, true)

end

/-- The outline of a document, and whether the document ends with it. -/
def ofSymbols (source : List Symbol) : Outline × Bool :=
  value [] (Token.scan source)

end Outline

end ApiBindings.Json
