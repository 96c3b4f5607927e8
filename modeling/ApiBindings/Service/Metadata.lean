/-!
# Service metadata

The protocol of a service and the names and versions that its requests carry.
-/

namespace ApiBindings.Service

/-- The wire protocol of a service. -/
inductive Protocol where
  | json
  | query
  | ec2
  | restJson
  | restXml
  deriving DecidableEq, Repr

namespace Protocol

/-- Every protocol, in the order diagnostics list them. -/
def all : List Protocol := [json, query, ec2, restJson, restXml]

/-- The tag of a protocol in a service description. -/
def name : Protocol → String
  | json => "json"
  | query => "query"
  | ec2 => "ec2"
  | restJson => "rest-json"
  | restXml => "rest-xml"

/-- The protocol with a given tag. -/
def ofName? (s : String) : Option Protocol := all.find? (·.name == s)

/-- Whether each operation has an HTTP method and a path of its own. -/
def isRest : Protocol → Bool
  | restJson | restXml => true
  | json | query | ec2 => false

/-- The protocol that requests are serialised with: the EC2 dialect is written as plain query. -/
def serialization : Protocol → Protocol
  | ec2 => query
  | p => p

end Protocol

/-- The metadata of a service. -/
structure Metadata where
  protocol : Protocol
  declaredSigningName : Option String
  endpointPrefix : String
  apiVersion : String
  declaredJsonVersion : Option String
  targetPrefix : Option String
  uid : Option String
  serviceId : Option String
  fullName : Option String

namespace Metadata

/-- Metadata with nothing but the data that must be there. -/
def ofRequired (protocol : Protocol) (endpointPrefix apiVersion : String) : Metadata :=
  ⟨protocol, none, endpointPrefix, apiVersion, none, none, none, none, none⟩

/-- The name requests are signed with: the endpoint prefix if none is declared. -/
def signingName (m : Metadata) : String :=
  m.declaredSigningName.getD m.endpointPrefix

end Metadata

end ApiBindings.Service
