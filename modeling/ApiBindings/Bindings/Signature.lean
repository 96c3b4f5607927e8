import ApiBindings.Bindings.Dispatcher

/-!
# Call signatures

The documented ways of calling an operation: by the binding or by the service's dispatcher, with a
dictionary of arguments or with keywords. Keywords are listed for the required members of the
input; a marker stands for the others.
-/

namespace ApiBindings.Bindings

open Service

/-- What stands for all optional arguments. -/
def optionalArguments : String := "<keyword arguments>"

/-- The keyword arguments of a structure's members. -/
def keywordArguments (m : Metadata) (s : Structure) : List String :=
  let (required, optional) := s.partitionMembers
  required.map (fun (name, member) => displayName m name member ++ "=") ++
    if optional.isEmpty then [] else [optionalArguments]

/-- The argument list of an operation. It is empty without an input structure; the input's shape
must be declared. -/
def argumentList (d : Description) (op : Operation) : Except Failure String :=
  match op.input with
  | none => .ok ""
  | some name =>
    match d.shapes.find? name with
    | none => .error (.unknownShape name)
    | some (.struct s) => .ok (", ".intercalate (keywordArguments d.metadata s))
    | some _ => .ok ""

/-- The value that a call of an operation passes on for a parameter, if operations have one. -/
def passedValue? (key : String) (op : Operation) : String → Option String
  | "verb" => some op.http.method.name
  | "resource" => some op.http.requestUri
  | "operation" => some key
  | _ => none

/-- The literals that a call of an operation passes on. -/
def passedLiterals (d : Description) (key : String) (op : Operation) : List String :=
  (DispatchPlan.ofMetadata d.metadata).passed.filterMap fun name =>
    (passedValue? key op name).map fun value => "\"" ++ value ++ "\""

/-- The four ways of calling an operation. -/
structure Signatures where
  dictionary : String
  keyword : String
  qualifiedDictionary : String
  qualifiedKeyword : String

/-- The signatures of an operation. -/
def signatures (d : Description) (key : String) (op : Operation) : Except Failure Signatures :=
  (argumentList d op).map fun arguments =>
    let function := Text.snakeCase key
    let qualified := dispatcherName d.metadata ++ "([::AWSConfig], " ++
      ", ".intercalate (passedLiterals d key op)
    { dictionary := function ++ "([::AWSConfig], arguments::Dict)"
      keyword :=
        function ++ "([::AWSConfig]" ++
          (if arguments.isEmpty then "" else "; " ++ arguments) ++ ")"
      qualifiedDictionary := qualified ++ ", arguments::Dict)"
      qualifiedKeyword :=
        qualified ++ (if arguments.isEmpty then "" else ", " ++ arguments) ++ ")" }

end ApiBindings.Bindings
