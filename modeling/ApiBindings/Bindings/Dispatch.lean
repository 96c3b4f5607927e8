import ApiBindings.Service.Metadata

/-!
# Dispatch plans

How the calls of a service reach the transport layer. The protocol decides which parameters of a
request vary by operation, and are passed on by each binding, and which are the same for the whole
service, and are baked into its dispatcher.
-/

namespace ApiBindings.Bindings

open Service

/-- How a service binds its operations to HTTP. -/
inductive Family where
  /-- Every request is `POST /`, and the operation's name selects the action. -/
  | simplePost
  /-- Operations are selected by name, yet have a method and a resource of their own. -/
  | rpc
  /-- Operations are their methods and resources, which may have parameters. -/
  | rest
  deriving DecidableEq, Repr

/-- The endpoint prefix of the one service of the family `rpc`. -/
def rpcEndpoint : String := "importexport"

namespace Family

/-- The family of a service. -/
def ofMetadata (m : Metadata) : Family :=
  if m.protocol.isRest then rest
  else if m.endpointPrefix = rpcEndpoint then rpc
  else simplePost

/-- Whether each call passes on its method and resource. -/
def passesRequest (f : Family) : Bool := f != simplePost

/-- Whether each call passes on the operation's name. -/
def passesOperation (f : Family) : Bool := f != rest

/-- Whether request URIs may have path parameters. -/
def allowsPathParameters (f : Family) : Bool := f == rest

end Family

/-- A parameter of the transport layer. -/
inductive Parameter where
  /-- A parameter with the value that a call passes on under its name. -/
  | passed (name : String)
  /-- A parameter with a value of the whole service. -/
  | literal (name value : String)
  deriving DecidableEq, Repr

namespace Parameter

/-- The name of a parameter. -/
def name : Parameter → String
  | passed name | literal name _ => name

/-- The name of a parameter that calls pass on. -/
def passed? : Parameter → Option String
  | passed name => some name
  | literal .. => none

/-- The parameter as a keyword argument. -/
def keyword : Parameter → String
  | passed name => name ++ "=" ++ name
  | literal name value => name ++ "=\"" ++ value ++ "\""

end Parameter

/-- The JSON version of a service: `1.0` if none is declared or it says no more than `1`. -/
def jsonVersion (declared : Option String) : String :=
  match declared with
  | none => "1.0"
  | some version => if version = "1" then "1.0" else version

/-- The parameters that a service hands to the transport layer, in order. -/
structure DispatchPlan where
  family : Family
  serialization : Protocol
  parameters : List Parameter

namespace DispatchPlan

/-- The plan of a service. The endpoint is mentioned only if requests are signed with another
name. -/
def ofMetadata (m : Metadata) : DispatchPlan :=
  let family := Family.ofMetadata m
  let endpoint : List Parameter :=
    if m.endpointPrefix = m.signingName then [] else [.literal "endpoint" m.endpointPrefix]
  let request : List Parameter :=
    if family.passesRequest then [.passed "verb", .passed "resource"]
    else [.literal "verb" "POST", .literal "resource" "/"]
  let jsonOnly : List Parameter :=
    if m.protocol = .json then
      [.literal "json_version" (jsonVersion m.declaredJsonVersion),
        .literal "target" (m.targetPrefix.getD "")]
    else []
  let operation : List Parameter := if family.passesOperation then [.passed "operation"] else []
  { family := family
    serialization := m.protocol.serialization
    parameters :=
      [.literal "service" m.signingName, .literal "version" m.apiVersion] ++ endpoint ++ request ++
        jsonOnly ++ operation }

/-- The names of all parameters. -/
def names (plan : DispatchPlan) : List String := plan.parameters.map Parameter.name

/-- The names of the parameters that calls pass on. -/
def passed (plan : DispatchPlan) : List String := plan.parameters.filterMap Parameter.passed?

/-- The parameter of a given name. -/
def find? (plan : DispatchPlan) (name : String) : Option Parameter :=
  plan.parameters.find? (·.name == name)

/-- The transport function for the plan's serialisation. -/
def transport (plan : DispatchPlan) : String :=
  "service_" ++ plan.serialization.name.map fun c => if c = '-' then '_' else c

end DispatchPlan

end ApiBindings.Bindings
