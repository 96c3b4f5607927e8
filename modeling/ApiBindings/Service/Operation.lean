import ApiBindings.Json.Value

/-!
# Operations

The remote procedures of a service, how they are bound to HTTP, and worked examples of their use.
-/

namespace ApiBindings.Service

/-- An HTTP request method. -/
inductive Method where
  | get
  | post
  | put
  | patch
  | delete
  | head
  | options
  deriving DecidableEq, Repr

namespace Method

/-- Every method, in the order diagnostics list them. -/
def all : List Method := [get, post, put, patch, delete, head, options]

/-- The name of a method. -/
def name : Method → String
  | get => "GET"
  | post => "POST"
  | put => "PUT"
  | patch => "PATCH"
  | delete => "DELETE"
  | head => "HEAD"
  | options => "OPTIONS"

/-- The method with a given name. -/
def ofName? (s : String) : Option Method := all.find? (·.name == s)

end Method

/-- The request of an operation: its method and the template of its URI. -/
structure HttpBinding where
  method : Method
  requestUri : String
  deriving DecidableEq

/-- The request that services without paths use for every operation. -/
def HttpBinding.postRoot : HttpBinding := ⟨.post, "/"⟩

/-- A remote operation. Input, output and errors are names of shapes. -/
structure Operation where
  name : String
  http : HttpBinding
  input : Option String
  output : Option String
  errors : List String
  documentation : Option String

/-- An operation that takes and gives nothing. -/
def Operation.ofRequest (name : String) (http : HttpBinding) : Operation :=
  ⟨name, http, none, none, [], none⟩

/-- A documented sample call. -/
structure Example where
  title : String
  description : String
  input : Option Json.Value
  output : Option Json.Value

end ApiBindings.Service
