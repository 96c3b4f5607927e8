import ApiBindings.Bindings.Layout
import ApiBindings.Service.Operation
import ApiBindings.Text.Blank

/-!
# Worked examples

Example values as literal expressions. Objects and arrays have one entry on each line, and empty
ones of either sort look alike.
-/

namespace ApiBindings.Bindings

open Service
open Json (Value)

/-- A text as a string literal: quotes and backslashes are escaped and all else stands for
itself. -/
def literalText (s : String) : String :=
  "\"" ++ String.ofList (s.toList.flatMap fun c =>
    if c = '"' ∨ c = '\\' then ['\\', c] else [c]) ++ "\""

/-- Entries on lines of their own between brackets, the closing one at the given indent. -/
def block (indent : String) : List String → String
  | [] => "[]"
  | entries => "[\n" ++ ",\n".intercalate entries ++ "\n" ++ indent ++ "]"

mutual

/-- The text of a value whose closing bracket stands at the given indent. -/
def valueText (indent : String) : Value → String
  | .null => "null"
  | .boolean b => if b then "true" else "false"
  | .number n => n.text
  | .string s => literalText s
  | .array items => block indent (itemTexts (indent ++ indentUnit) items)
  | .object entries => block indent (entryTexts (indent ++ indentUnit) entries)

/-- The lines of an array's elements at the given indent. -/
def itemTexts (indent : String) : List Value → List String
  | [] => []
  | v :: rest => (indent ++ valueText indent v) :: itemTexts indent rest

/-- The lines of an object's entries at the given indent. -/
def entryTexts (indent : String) : List (String × Value) → List String
  | [] => []
  | (key, v) :: rest =>
    (indent ++ literalText key ++ " => " ++ valueText indent v) :: entryTexts indent rest

end

/-- The part of an example that shows a value under a title. -/
def valueSection (title : String) : Option Value → String
  | none => ""
  | some v => "\n\n" ++ title ++ ":\n\x60\x60\x60\n" ++ valueText "" v ++ "\n\x60\x60\x60"

/-- The documentation of an example. -/
def exampleText (e : Example) : String :=
  let description := Text.trim e.description
  "# Example: " ++ Text.trim e.title ++
    (if description.isEmpty then "" else "\n\n" ++ description) ++
    valueSection "Input" e.input ++ valueSection "Output" e.output

end ApiBindings.Bindings
