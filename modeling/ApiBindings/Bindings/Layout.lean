import ApiBindings.Bindings.Expansion
import ApiBindings.Text.Phrase

/-!
# Layout of expansions

The text of an expansion as a literal expression. A structure with several members has one of them
on each line, at the given indent, and its closing bracket one level further out; everything else
stays on one line.
-/

namespace ApiBindings.Bindings

/-- One level of nesting. -/
def indentUnit : String := "    "

/-- An indent without its last level; nothing if it does not end in a level. -/
def outdent (indent : String) : String :=
  if indentUnit.toList.isSuffixOf indent.toList then
    String.ofList (indent.toList.take (indent.length - indentUnit.length))
  else ""

/-- The mark of a required member. -/
def requiredMark : String := "<required> "

/-- Members between brackets. Two or more stand on lines of their own at the given indent. -/
def bracketed (indent : String) : List String → String
  | [] => "[]"
  | [only] => "[" ++ only ++ "]"
  | several =>
    "[\n" ++ indent ++ (",\n" ++ indent).intercalate several ++ "\n" ++ outdent indent ++ "]"

namespace Expansion

mutual

/-- The text of an expansion whose members stand at the given indent. -/
def layout (indent : String) : Expansion → String
  | word text => text
  | values texts => Text.joinOr (texts.map fun v => "\"" ++ v ++ "\"")
  | list element => "[" ++ element.layout indent ++ ", ...]"
  | struct members => bracketed indent (memberTexts (indent ++ indentUnit) members)

/-- The texts of a structure's members, the values of which are at the given indent. -/
def memberTexts (indent : String) : List (String × Bool × Expansion) → List String
  | [] => []
  | (name, required, value) :: rest =>
    ("\"" ++ name ++ "\" => " ++ (if required then requiredMark else "") ++ value.layout indent) ::
      memberTexts indent rest

end

end Expansion

end ApiBindings.Bindings
