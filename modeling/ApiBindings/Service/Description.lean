import ApiBindings.Service.Metadata
import ApiBindings.Service.Operation
import ApiBindings.Service.Shape

/-!
# Service descriptions

A service: its metadata, operations, shapes and examples. All tables keep the order of the
description, which decides the order of everything generated from them.
-/

namespace ApiBindings.Service

/-- A service description. -/
structure Description where
  metadata : Metadata
  documentation : Option String
  operations : NameTable Operation
  shapes : NameTable Shape
  examples : NameTable (List Example)

namespace Description

/-- A service with nothing but its metadata. -/
def ofMetadata (m : Metadata) : Description := ⟨m, none, ∅, ∅, ∅⟩

/-- The examples of an operation. -/
def examplesFor (d : Description) (operation : String) : List Example :=
  (d.examples.find? operation).getD []

/-- Adds examples behind those that are there already. -/
def addExamples (d : Description) (more : NameTable (List Example)) : Description :=
  { d with
    examples := more.entries.foldl (fun t (operation, examples) =>
      t.put operation ((t.find? operation).getD [] ++ examples)) d.examples }

/-- Gives every operation without a name that of its key. -/
def nameOperations (d : Description) : Description :=
  { d with
    operations := d.operations.mapItems fun key operation =>
      if operation.name.isEmpty then { operation with name := key } else operation }

/-- Puts a shape under a name. -/
def putShape (d : Description) (name : String) (shape : Shape) : Description :=
  { d with shapes := d.shapes.put name shape }

/-- Removes a shape. What refers to it stays. -/
def removeShape (d : Description) (name : String) : Description :=
  { d with shapes := d.shapes.erase name }

/-- Puts an operation under a key. -/
def putOperation (d : Description) (key : String) (operation : Operation) : Description :=
  { d with operations := d.operations.put key operation }

/-- Removes an operation. Its examples stay. -/
def removeOperation (d : Description) (key : String) : Description :=
  { d with operations := d.operations.erase key }

/-- Puts a member into a structure, at the end of the required names if it is required. There is
no result if the owner is not a structure. -/
def putMember? (d : Description) (owner name : String) (member : Member) (required : Bool) :
    Option Description := do
  let s ← (← d.shapes.find? owner).structure?
  let s := { s with members := s.members.put name member }
  let s := if required then { s with required := s.required ++ [name] } else s
  return d.putShape owner (.struct s)

end Description

end ApiBindings.Service
