import ApiBindings.Bindings.Dispatch
import ApiBindings.Bindings.Layout

/-!
# Dispatchers

The function that every binding of a service calls. It takes what varies by operation, adds what
is the same for the whole service, and hands both to the transport layer.
-/

namespace ApiBindings.Bindings

open Service

/-- The name of a service's dispatcher. -/
def dispatcherName (m : Metadata) : String := Text.identifier m.endpointPrefix

/-- The definition of a dispatcher. -/
structure Dispatcher where
  name : String
  passed : List String
  transport : String
  parameters : List Parameter

namespace Dispatcher

/-- The dispatcher of a service. -/
def ofMetadata (m : Metadata) : Dispatcher :=
  let plan := DispatchPlan.ofMetadata m
  ⟨dispatcherName m, plan.passed, plan.transport, plan.parameters⟩

/-- The formal parameters of a dispatcher. -/
def formals (f : Dispatcher) : List String :=
  ["aws::AWSConfig"] ++ f.passed ++ ["args=[]"]

/-- The keyword arguments that a dispatcher hands to the transport layer. -/
def keywords (f : Dispatcher) : List String :=
  f.parameters.map Parameter.keyword ++ ["args=args"]

/-- The source text of a dispatcher. -/
def text (f : Dispatcher) : String :=
  let inner := indentUnit ++ indentUnit
  "function " ++ f.name ++ "(" ++ ", ".intercalate f.formals ++ ")\n\n" ++
    indentUnit ++ "AWSCore." ++ f.transport ++ "(\n" ++
    inner ++ "aws;\n" ++
    inner ++ (",\n" ++ inner).intercalate f.keywords ++ ")\nend\n"

end Dispatcher

end ApiBindings.Bindings
