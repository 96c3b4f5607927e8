import ApiBindings.Json.Codec
import ApiBindings.Service.Description

/-!
# Service descriptions as documents

The layout of a service description and of a document with examples only. The order of the fields
is that in which they are written, and that of records given as arrays.
-/

namespace ApiBindings.Service

open Json

/-- A table of items by name. -/
def tableCodec {α : Type} (c : Codec α) : Codec (NameTable α) :=
  c.keyed ∅ NameTable.put NameTable.entries

/-- A reference to a shape by name. -/
def referenceCodec : Codec String :=
  ((Fields.cons (.required "shape" .string) .nil).codec "ShapeRef").convert
    (fun (shape, ()) => shape) (fun shape => (shape, ()))

/-- Metadata is written with all its fields. -/
def metadataCodec : Codec Metadata :=
  ((Fields.cons (.required "protocol"
      (.choice (Protocol.all.map fun p => (p.name, p)) Protocol.name))
    <| .cons (.nullable "signingName" .string)
    <| .cons (.required "endpointPrefix" .string)
    <| .cons (.required "apiVersion" .string)
    <| .cons (.nullable "jsonVersion" .string)
    <| .cons (.nullable "targetPrefix" .string)
    <| .cons (.nullable "uid" .string)
    <| .cons (.nullable "serviceId" .string)
    <| .cons (.nullable "serviceFullName" .string) .nil).codec "Metadata").convert
    (fun (protocol, signingName, endpointPrefix, apiVersion, jsonVersion, targetPrefix, uid,
        serviceId, fullName, ()) =>
      ⟨protocol, signingName, endpointPrefix, apiVersion, jsonVersion, targetPrefix, uid,
        serviceId, fullName⟩)
    (fun m => (m.protocol, m.declaredSigningName, m.endpointPrefix, m.apiVersion,
      m.declaredJsonVersion, m.targetPrefix, m.uid, m.serviceId, m.fullName, ()))

/-- The HTTP binding of an operation. -/
def httpCodec : Codec HttpBinding :=
  ((Fields.cons (.required "method" (.choice (Method.all.map fun m => (m.name, m)) Method.name))
    <| .cons (.required "requestUri" .string) .nil).codec "HttpBinding").convert
    (fun (method, uri, ()) => ⟨method, uri⟩) (fun b => (b.method, b.requestUri, ()))

/-- Operations. An operation without errors does not mention them. -/
def operationCodec : Codec Operation :=
  ((Fields.cons (.defaulted "name" .string "")
    <| .cons (.required "http" httpCodec)
    <| .cons (.optional "input" referenceCodec)
    <| .cons (.optional "output" referenceCodec)
    <| .cons (.omitting "errors" (.list referenceCodec) [] List.isEmpty)
    <| .cons (.optional "documentation" .string) .nil).codec "Operation").convert
    (fun (name, http, input, output, errors, documentation, ()) =>
      ⟨name, http, input, output, errors, documentation⟩)
    (fun o => (o.name, o.http, o.input, o.output, o.errors, o.documentation, ()))

/-- Members of a structure and elements of a list. -/
def memberCodec : Codec Member :=
  ((Fields.cons (.required "shape" .string)
    <| .cons (.optional "locationName" .string)
    <| .cons (.optional "documentation" .string) .nil).codec "MemberRef").convert
    (fun (shape, locationName, documentation, ()) => ⟨shape, locationName, documentation⟩)
    (fun m => (m.shape, m.locationName, m.documentation, ()))

/-- The layout shared by all shapes. -/
def shapeLayoutCodec : Codec ShapeLayout :=
  ((Fields.cons (.defaulted "type" .string "")
    <| .cons (.optional "members" (tableCodec memberCodec))
    <| .cons (.optional "required" (.list .string))
    <| .cons (.optional "member" memberCodec)
    <| .cons (.optional "enum" (.list .string))
    <| .cons (.optional "documentation" .string) .nil).codec "RawShape").convert
    (fun (kind, members, required, element, values, documentation, ()) =>
      ⟨kind, members, required, element, values, documentation⟩)
    (fun l => (l.kind, l.members, l.required, l.element, l.values, l.documentation, ()))

/-- Shapes. A layout is judged once it has been read completely. -/
def shapeCodec : Codec Shape :=
  shapeLayoutCodec.refine (fun l => (Shape.ofLayout l).mapError ShapeLayout.Flaw.message)
    Shape.layout

/-- Examples. -/
def exampleCodec : Codec Example :=
  ((Fields.cons (.defaulted "title" .string "")
    <| .cons (.defaulted "description" .string "")
    <| .cons (.optional "input" .tree)
    <| .cons (.optional "output" .tree) .nil).codec "Example").convert
    (fun (title, description, input, output, ()) => ⟨title, description, input, output⟩)
    (fun e => (e.title, e.description, e.input, e.output, ()))

/-- Examples by operation. -/
def examplesCodec : Codec (NameTable (List Example)) :=
  tableCodec (.list exampleCodec)

/-- Service descriptions as they are written. -/
def descriptionCodec : Codec Description :=
  ((Fields.cons (.required "metadata" metadataCodec)
    <| .cons (.optional "documentation" .string)
    <| .cons (.defaulted "operations" (tableCodec operationCodec) ∅)
    <| .cons (.defaulted "shapes" (tableCodec shapeCodec) ∅)
    <| .cons (.omitting "examples" examplesCodec ∅ NameTable.isEmpty) .nil).codec
      "ServiceDefinition").convert
    (fun (metadata, documentation, operations, shapes, examples, ()) =>
      ⟨metadata, documentation, operations, shapes, examples⟩)
    (fun d => (d.metadata, d.documentation, d.operations, d.shapes, d.examples, ()))

/-- A document that holds nothing but examples. -/
def examplesDocumentCodec : Codec (NameTable (List Example)) :=
  ((Fields.cons (.defaulted "examples" examplesCodec ∅) .nil).codec "ExamplesDocument").convert
    (fun (examples, ()) => examples) (fun examples => (examples, ()))

namespace Description

/-- Reads a service description. Operations that do not give their name are named by their key. -/
def read (source : List Symbol) : Except Fault Description :=
  (descriptionCodec.read source).map nameOperations

/-- Reads a service description from text. -/
def ofText (text : String) : Except Fault Description :=
  read (symbolsOfText text)

/-- Reads a service description from bytes. -/
def ofBytes (bytes : ByteArray) : Except Fault Description :=
  read (symbolsOfBytes bytes)

/-- The written form of a service description. -/
def text (d : Description) : String := descriptionCodec.write d

/-- Adds the examples of a document with examples. -/
def addExamplesOfText (d : Description) (text : String) : Except Fault Description :=
  (examplesDocumentCodec.read (symbolsOfText text)).map d.addExamples

end Description

end ApiBindings.Service
