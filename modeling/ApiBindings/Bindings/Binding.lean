import ApiBindings.Bindings.Argument
import ApiBindings.Bindings.Sample
import ApiBindings.Bindings.Signature
import ApiBindings.Text.Docstring
import ApiBindings.Text.Placeholder

/-!
# Operation bindings

The text generated for one operation: a docstring and the functions that call the service's
dispatcher. An operation whose request contradicts its service's protocol has no binding.
-/

namespace ApiBindings.Bindings

open Service

/-- Where the reference of each operation is found. -/
def referenceUrl : String := "https://docs.aws.amazon.com/goto/WebAPI"

/-- How an operation's request contradicts its service's protocol, if it does. -/
def contradiction? (m : Metadata) (http : HttpBinding) : Option Contradiction :=
  let family := Family.ofMetadata m
  if family = .simplePost ∧ http ≠ .postRoot then some (.notPostRoot m.protocol http)
  else if Text.hasPathParameters http.requestUri && !family.allowsPathParameters then
    some (.pathParameters http.requestUri m.protocol)
  else none

/-- The functions that call the dispatcher for an operation. -/
structure CallThrough where
  function : String
  dispatcher : String
  passed : List String

namespace CallThrough

/-- The functions of an operation. -/
def ofOperation (d : Description) (key : String) (op : Operation) : CallThrough :=
  ⟨Text.snakeCase key, dispatcherName d.metadata, passedLiterals d key op⟩

/-- The arguments that the dispatcher is called with. -/
def arguments (c : CallThrough) : List String :=
  ["aws"] ++ c.passed ++ ["args"]

/-- The source text of the functions: with keywords, with a configuration and a dictionary, and
with a dictionary alone. -/
def text (c : CallThrough) : String :=
  let f := c.function
  "@inline " ++ f ++ "(aws::AWSConfig=default_aws_config(); args...) = " ++ f ++
    "(aws, args)\n\n" ++
    "@inline " ++ f ++ "(aws::AWSConfig, args) =\n    AWSCore.Services." ++ c.dispatcher ++ "(" ++
    ", ".intercalate c.arguments ++ ")\n\n" ++
    "@inline " ++ f ++ "(args) = " ++ f ++ "(default_aws_config(), args)\n"

end CallThrough

/-- The part of the documentation that shows how an operation is called. -/
def usageSection (d : Description) (moduleName key : String) (s : Signatures) : String :=
  "    using AWSSDK." ++ moduleName ++ "." ++ Text.snakeCase key ++ "\n    " ++ s.dictionary ++
    "\n    " ++ s.keyword ++ "\n\n    using AWSCore.Services." ++ dispatcherName d.metadata ++
    "\n    " ++ s.qualifiedDictionary ++ "\n    " ++ s.qualifiedKeyword

/-- The part that documents the arguments: nothing without input, and only a title if the input
has no members. -/
def argumentSections (d : Description) (docs : Formatter) (op : Operation) :
    Report (List String) :=
  match op.input with
  | none => .done []
  | some name => (argumentBlock d docs [] name).map fun block =>
    "# Arguments" :: if block.isEmpty then [] else [block]

/-- The part that names the result, with the documentation of its structure. A result whose shape
is not declared is named all the same. -/
def resultSections (d : Description) (docs : Formatter) (op : Operation) : List String :=
  match op.output with
  | none => []
  | some name =>
    let documentation := do
      let s ← (← d.shapes.find? name).structure?
      docs.embedded? s.documentation
    ["# Returns\n\n\x60" ++ name ++ "\x60" ++
      match documentation with
      | some text => "\n\n" ++ text
      | none => ""]

/-- The part that names the errors. -/
def errorSections (op : Operation) : List String :=
  if op.errors.isEmpty then []
  else ["# Exceptions\n\n" ++ Text.joinOr (op.errors.map fun e => "\x60" ++ e ++ "\x60") ++ "."]

/-- The part that refers to more documentation. -/
def referenceSections (d : Description) (key : String) : List String :=
  match d.metadata.uid with
  | none => []
  | some uid =>
    ["See also: [AWS API Documentation](" ++ referenceUrl ++ "/" ++ uid ++ "/" ++ key ++ ")"]

/-- The documentation of an operation before it is made a docstring. -/
def operationDocumentation (d : Description) (docs : Formatter) (moduleName key : String)
    (op : Operation) (s : Signatures) : Report String :=
  (argumentSections d docs op).map fun arguments =>
    "\n\n".intercalate
      ([usageSection d moduleName key s, "# " ++ key ++ " Operation"] ++
        (docs.embedded? op.documentation).toList ++ arguments ++ resultSections d docs op ++
        errorSections op ++ (d.examplesFor key).map exampleText ++ referenceSections d key)

/-- A docstring with the given text. -/
def docstring (text : String) : String :=
  "\"\"\"\n" ++ Text.escapeDocstring text ++ "\n\"\"\"\n"

/-- The binding of the operation under a key. -/
def operationBinding (d : Description) (docs : Formatter) (moduleName key : String)
    (op : Operation) : Report String :=
  match contradiction? d.metadata op.http with
  | some reason => .fail (.contradiction key reason)
  | none =>
    match signatures d key op with
    | .error f => .fail f
    | .ok s =>
      (operationDocumentation d docs moduleName key op s).bind fun documentation =>
        (Report.note (.bindingFinished (Text.snakeCase key))).map fun _ =>
          docstring documentation ++ (CallThrough.ofOperation d key op).text

end ApiBindings.Bindings
