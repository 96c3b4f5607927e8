import ApiBindings.Json.Value

/-!
# Typed reading and writing

A codec reads data of one type from the outline of a document and writes it as a tree. Codecs of
simple types are combined to codecs of lists, of optional data and of records.

A record is an object with known fields, in any order. Fields that it does not know are passed
over. A field may be required or have a value that stands for it when it is missing, and writing
may leave out some values of a field. A record may also be given as an array of its fields in the
order of their declaration, where only fields at the end can be missing.
-/

namespace ApiBindings.Json

/-- How data of one type is read and written. The first argument of `decode` is the number of
arrays and objects that may still be opened. -/
structure Codec (α : Type) where
  decode : Nat → Outline → Except Fault α
  encode : α → Value

namespace Codec

/-- Reads a whole document. -/
def read {α : Type} (c : Codec α) (source : List Symbol) : Except Fault α :=
  (c.decode nestingLimit (Outline.ofSymbols source).1).bind fun a =>
    if (Outline.ofSymbols source).2 then .ok a else .error .trailingSymbols

/-- Writes a document. -/
def write {α : Type} (c : Codec α) (a : α) : String :=
  (c.encode a).text

/-- Trees, as they are. -/
def tree : Codec Value where
  decode := Value.ofOutline
  encode v := v

/-- Texts. -/
def string : Codec String where
  decode _ o := match o with
    | .leaf (.string l) => l.text
    | o => .error (o.mismatch "a string")
  encode s := .string s

/-- Data that may be null. -/
def optional {α : Type} (c : Codec α) : Codec (Option α) where
  decode room o := match o with
    | .leaf .null => .ok none
    | o => (c.decode room o).map some
  encode a := match a with
    | none => .null
    | some a => c.encode a

/-- Arrays of any length. -/
def list {α : Type} (c : Codec α) : Codec (List α) where
  decode room o := match room, o with
    | 0, .array .. => .error .nestedTooDeeply
    | room + 1, .array items ending =>
      (items.mapM (c.decode room)).bind fun found => finish ending.fault? found
    | _, o => .error (o.mismatch "a sequence")
  encode as := .array (as.map c.encode)

/-- Reads one entry of an object and puts it to those read before. -/
def entry {α τ : Type} (c : Codec α) (put : String → α → τ → τ) (room : Nat) (read : τ)
    (e : Literal × Outline) : Except Fault τ :=
  e.1.text.bind fun key => (c.decode room e.2).map fun a => put key a read

/-- Objects with any keys, read in order with `put` and written from a list of entries. -/
def keyed {α τ : Type} (c : Codec α) (empty : τ) (put : String → α → τ → τ)
    (entries : τ → List (String × α)) : Codec τ where
  decode room o := match room, o with
    | 0, .object .. => .error .nestedTooDeeply
    | room + 1, .object es ending =>
      (es.foldlM (c.entry put room) empty).bind fun found => finishObject ending found
    | _, o => .error (o.mismatch "a map")
  encode t := .object ((entries t).map fun (key, a) => (key, c.encode a))

/-- The key that names a choice given as an object with no entry. An object that ends without any
key names nothing. -/
def choiceKey (ending : ObjectEnd) : Except Fault Literal :=
  match ending with
  | .bareKey key _ => .ok key
  | ending => .error (ending.fault?.getD .valueExpected)

/-- The rest of a choice given as an object: its value is null and it has no other entry. -/
def finishChoice {α : Type} (a : α) (more : Bool) (ending : ObjectEnd) (o : Outline) :
    Except Fault α :=
  match o with
  | .leaf .null =>
    if more then .error .valueExpected
    else match ending with
      | .closed => .ok a
      | .documentEnd => .error .endInObject
      | _ => .error .valueExpected
  | o => .error (o.mismatch "unit")

/-- A choice among names, given as a text or as an object that has the name as its only key. -/
def choice {α : Type} (names : List (String × α)) (nameOf : α → String) : Codec α where
  decode room o :=
    let pick (l : Literal) : Except Fault α :=
      l.text.bind fun name => match names.lookup name with
        | some a => .ok a
        | none => .error (.unknownName name (names.map Prod.fst))
    match room, o with
    | _, .leaf (.string l) => pick l
    | _, .leaf .absent => .error .endInValue
    | 0, .object .. => .error .nestedTooDeeply
    | _ + 1, .object [] ending =>
      (choiceKey ending).bind fun key => (pick key).bind fun _ =>
        match ending with
        | .bareKey _ last => .error (colonFault last)
        | _ => .error .valueExpected
    | _ + 1, .object ((key, o) :: more) ending =>
      (pick key).bind fun a => finishChoice a (!more.isEmpty) ending o
    | _, _ => .error .valueExpected
  encode a := .string (nameOf a)

/-- Reads through a rule that may reject, and writes through a function back. -/
def refine {α β : Type} (c : Codec α) (accept : α → Except String β) (back : β → α) :
    Codec β where
  decode room o := (c.decode room o).bind fun a => (accept a).mapError .ruleBroken
  encode b := c.encode (back b)

/-- Reads and writes through a pair of functions. -/
def convert {α β : Type} (c : Codec α) (forth : α → β) (back : β → α) : Codec β where
  decode room o := (c.decode room o).map forth
  encode b := c.encode (back b)

end Codec

/-- A field of a record. -/
structure Field (α : Type) where
  name : String
  codec : Codec α
  /-- What a missing field stands for; a field without it is required. -/
  missing? : Option α
  /-- Which values are written by leaving the field out. -/
  omits : α → Bool

namespace Field

/-- A field that must be there. -/
def required {α : Type} (name : String) (c : Codec α) : Field α :=
  ⟨name, c, none, fun _ => false⟩

/-- A field with a value that stands for it when it is missing, and that is always written. -/
def defaulted {α : Type} (name : String) (c : Codec α) (default : α) : Field α :=
  ⟨name, c, some default, fun _ => false⟩

/-- A field that may be missing or null, and is left out then. -/
def optional {α : Type} (name : String) (c : Codec α) : Field (Option α) :=
  ⟨name, c.optional, some none, Option.isNone⟩

/-- A field that may be missing or null, and is written as null then. -/
def nullable {α : Type} (name : String) (c : Codec α) : Field (Option α) :=
  ⟨name, c.optional, some none, fun _ => false⟩

/-- A field with a default that is left out for the values that `omits` holds of. -/
def omitting {α : Type} (name : String) (c : Codec α) (default : α) (omits : α → Bool) :
    Field α :=
  ⟨name, c, some default, omits⟩

end Field

/-- The fields of a record in the order of their declaration. The record's data is a tuple. -/
inductive Fields : Type → Type 1 where
  | nil : Fields Unit
  | cons {α β : Type} (field : Field α) (rest : Fields β) : Fields (α × β)

namespace Fields

/-- The number of fields. -/
def size {α : Type} : Fields α → Nat
  | nil => 0
  | cons _ rest => rest.size + 1

/-- What is known of a record while its fields are read. -/
@[reducible] def Draft : {α : Type} → Fields α → Type
  | _, nil => Unit
  | _, @cons β _ _ rest => Option β × rest.Draft

/-- A draft in which no field has been read. -/
def blank {α : Type} : (fs : Fields α) → fs.Draft
  | nil => ()
  | cons _ rest => (none, rest.blank)

/-- Enters a field into a draft; a field that is there already is a fault. The outline is absent
if the document breaks off behind the key. -/
def enter {α : Type} (room : Nat) (key : String) (o? : Option Outline) :
    (fs : Fields α) → fs.Draft → Except Fault fs.Draft
  | nil, draft => finish (o?.bind Outline.skippedFault?) draft
  | cons field rest, draft =>
    if key = field.name then
      match draft.1, o? with
      | some _, _ => .error (.duplicateField field.name)
      | none, some o => (field.codec.decode room o).map fun a => (some a, draft.2)
      | none, none => .ok draft
    else (enter room key o? rest draft.2).map fun others => (draft.1, others)

/-- The record of a draft, if no required field is missing. -/
def complete {α : Type} : (fs : Fields α) → fs.Draft → Except Fault α
  | nil, _ => .ok ()
  | cons field rest, draft =>
    match draft.1.or field.missing? with
    | some a => (complete rest draft.2).map fun b => (a, b)
    | none => .error (.missingField field.name)

/-- Reads one entry of an object into a draft. -/
def entry {α : Type} (fs : Fields α) (room : Nat) (draft : fs.Draft) (e : Literal × Outline) :
    Except Fault fs.Draft :=
  e.1.text.bind fun key => fs.enter room key (some e.2) draft

/-- Ends the entries of an object whose fields are in a draft. A key without a colon is still
looked up, since a fault of the key goes before that of the colon. -/
def endEntries {α : Type} (fs : Fields α) (room : Nat) (ending : ObjectEnd) (draft : fs.Draft) :
    Except Fault α :=
  match ending with
  | .bareKey key last =>
    key.text.bind fun key => (fs.enter room key none draft).bind fun _ => .error (colonFault last)
  | ending => (finish ending.fault? ()).bind fun _ => fs.complete draft

/-- Reads a record from the entries of an object. -/
def ofEntries {α : Type} (fs : Fields α) (room : Nat) (entries : List (Literal × Outline))
    (ending : ObjectEnd) : Except Fault α :=
  (entries.foldlM (fs.entry room) fs.blank).bind (fs.endEntries room ending)

/-- Reads a record from the elements of an array, the first of which has the given index.
`lacking` is the fault of a missing element. -/
def ofItems {α : Type} (room : Nat) (ending : ArrayEnd) (lacking : Nat → Fault) :
    Nat → (fs : Fields α) → List Outline → Except Fault α
  | _, nil, [] => finish ending.surplusFault? ()
  | _, nil, _ :: _ => .error .trailingSymbols
  | index, cons field rest, o :: items =>
    (field.codec.decode room o).bind fun a =>
      (ofItems room ending lacking (index + 1) rest items).map fun b => (a, b)
  | index, cons field rest, [] =>
    (finish ending.fault? ()).bind fun _ =>
      match field.missing? with
      | some a => (ofItems room ending lacking (index + 1) rest []).map fun b => (a, b)
      | none => .error (lacking index)

/-- The entries that a record is written as. -/
def entries {α : Type} : Fields α → α → List (String × Value)
  | nil, _ => []
  | cons field rest, (a, b) =>
    if field.omits a then rest.entries b
    else (field.name, field.codec.encode a) :: rest.entries b

/-- The codec of a record. Its name is for diagnostics. -/
def codec {α : Type} (name : String) (fs : Fields α) : Codec α where
  decode room o := match room, o with
    | 0, .object .. | 0, .array .. => .error .nestedTooDeeply
    | room + 1, .object entries ending => fs.ofEntries room entries ending
    | room + 1, .array items ending =>
      ofItems room ending (fun index => .missingElement index name fs.size) 0 fs items
    | _, o => .error (o.mismatch ("struct " ++ name))
  encode a := .object (fs.entries a)

end Fields

end ApiBindings.Json
