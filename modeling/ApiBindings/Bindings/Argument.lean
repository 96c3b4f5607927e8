import ApiBindings.Bindings.Documentation
import ApiBindings.Bindings.Layout
import ApiBindings.Text.Brief

/-!
# Arguments of an operation

The documentation of an input structure: an entry for each of its members. The heading of an entry
shows the member's value, or a summary if the value takes several lines and then follows in full.
-/

namespace ApiBindings.Bindings

open Service

/-- A documented argument with the text of its value. -/
structure Argument where
  name : String
  value : String
  required : Bool
  documentation : Option String

namespace Argument

/-- Whether the value takes several lines. -/
def isLong (a : Argument) : Bool := a.value.toList.contains '\n'

/-- The heading with the value or its summary. -/
def heading (a : Argument) : String :=
  "## \x60" ++ a.name ++ " = " ++ (if a.isLong then Text.brief a.value else a.value) ++ "\x60"

/-- The entry of an argument. -/
def text (a : Argument) : String :=
  a.heading ++ (if a.required then " -- *Required*" else "") ++
    (match a.documentation with
      | some text => "\n" ++ text
      | none => "") ++
    if a.isLong then "\n\x60\x60\x60\n " ++ a.name ++ " = " ++ a.value ++ "\n\x60\x60\x60" else ""

end Argument

/-- The arguments that the members of a structure are, below a chain of shapes under expansion. -/
def argumentsOf (d : Description) (docs : Formatter) (chain : List String) (s : Structure) :
    Report (List Argument) :=
  Report.each (fun (member : String × Member) =>
    (expand d chain member.2.shape).map fun value =>
      { name := displayName d.metadata member.1 member.2
        value := value.layout indentUnit
        required := s.isRequired member.1
        documentation := docs.embedded? member.2.documentation })
    s.members.entries

/-- The entries of a list of arguments. -/
def argumentsText (arguments : List Argument) : String :=
  "\n\n".intercalate (arguments.map Argument.text)

/-- The argument block of an input structure, below a chain of shapes under expansion. -/
def argumentBlock (d : Description) (docs : Formatter) (chain : List String) (name : String) :
    Report String :=
  match d.shapes.find? name with
  | none => .fail (.unknownShape name)
  | some shape =>
    if chain.contains name then (Report.note (.recursion name chain)).map fun _ => shape.kind
    else match shape with
      | .struct s => (argumentsOf d docs (chain ++ [name]) s).map argumentsText
      | shape => .fail (.notStructure name shape.kind)

/-- The text of a shape: an argument block if there is no indent, else a literal expression. -/
def render (d : Description) (docs : Formatter) (indent : String) (chain : List String)
    (name : String) : Report String :=
  if indent.isEmpty then argumentBlock d docs chain name
  else (expand d chain name).map (Expansion.layout indent)

end ApiBindings.Bindings
