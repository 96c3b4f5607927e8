import ApiBindings.Service.NameTable

/-!
# Shapes

The data model of a service: named shapes that refer to each other by name, so that the graph they
form may have cycles and loose ends. In a description all shapes share one layout with a kind tag;
`Shape.ofLayout` tells which layouts are shapes and `Shape.layout` gives the layout of a shape.
-/

namespace ApiBindings.Service

/-- A reference to the shape of a member or of a list's elements. -/
structure Member where
  shape : String
  locationName : Option String
  documentation : Option String

/-- A reference that says nothing but the shape. -/
def Member.ofShape (shape : String) : Member := ⟨shape, none, none⟩

/-- Named members, some of which are required. The list of required names is used as a set. -/
structure Structure where
  members : NameTable Member
  required : List String
  documentation : Option String

namespace Structure

/-- Whether a member is required. -/
def isRequired (s : Structure) (name : String) : Bool := s.required.contains name

/-- The required members and the optional ones, each in order. -/
def partitionMembers (s : Structure) : List (String × Member) × List (String × Member) :=
  s.members.entries.partition fun (name, _) => s.isRequired name

end Structure

/-- A shape by its kind. Kinds without a treatment of their own are kept as their tag. -/
inductive Shape where
  | struct (s : Structure)
  | list (element : Member)
  | map
  | string (values : List String)
  | integer
  | long
  | boolean
  | other (kind : String)

namespace Shape

/-- The kind tag of a shape. -/
def kind : Shape → String
  | struct _ => "structure"
  | list _ => "list"
  | map => "map"
  | string _ => "string"
  | integer => "integer"
  | long => "long"
  | boolean => "boolean"
  | other kind => kind

/-- The structure that a shape is. -/
def structure? : Shape → Option Structure
  | struct s => some s
  | _ => none

/-- A shape is a structure only as that structure. -/
theorem structure?_eq_some_iff {shape : Shape} {s : Structure} :
    shape.structure? = some s ↔ shape = struct s := by
  cases shape <;> simp [structure?]

/-- The shapes that a shape refers to: those of a structure's members in order, or that of a
list's elements. -/
def references : Shape → List String
  | struct s => s.members.entries.map fun (_, member) => member.shape
  | list element => [element.shape]
  | _ => []

end Shape

/-- The one layout that shapes of all kinds have in a description. -/
structure ShapeLayout where
  kind : String
  members : Option (NameTable Member)
  required : Option (List String)
  element : Option Member
  values : Option (List String)
  documentation : Option String

/-- The layout of a kind with nothing else. -/
def ShapeLayout.ofKind (kind : String) : ShapeLayout := ⟨kind, none, none, none, none, none⟩

/-- Why a layout is not a shape. -/
inductive ShapeLayout.Flaw where
  | kindMissing
  | elementMissing
  deriving DecidableEq, Repr

/-- The wording of a layout's flaw. -/
def ShapeLayout.Flaw.message : ShapeLayout.Flaw → String
  | kindMissing => "shape is missing its \x60type\x60"
  | elementMissing => "list shape is missing its \x60member\x60"

/-- A list of names if there are any. -/
def present (names : List String) : Option (List String) :=
  if names.isEmpty then none else some names

namespace Shape

/-- The shape of a layout. What does not belong to the kind is dropped. -/
def ofLayout (l : ShapeLayout) : Except ShapeLayout.Flaw Shape :=
  match l.kind with
  | "structure" => .ok (.struct ⟨l.members.getD ∅, l.required.getD [], l.documentation⟩)
  | "list" =>
    match l.element with
    | some element => .ok (.list element)
    | none => .error .elementMissing
  | "map" => .ok .map
  | "string" => .ok (.string (l.values.getD []))
  | "integer" => .ok .integer
  | "long" => .ok .long
  | "boolean" => .ok .boolean
  | "" => .error .kindMissing
  | kind => .ok (.other kind)

/-- The layout of a shape. A structure shows its members even if there are none. -/
def layout (s : Shape) : ShapeLayout :=
  let plain := ShapeLayout.ofKind s.kind
  match s with
  | struct s =>
    { plain with
      members := some s.members
      required := present s.required
      documentation := s.documentation }
  | list element => { plain with element := some element }
  | string values => { plain with values := present values }
  | _ => plain

end Shape

end ApiBindings.Service
