import ApiBindings.Proofs.KeyOrder
import ApiBindings.Proofs.Likeness

/-!
# How a description may be arranged

The fields of every record in a description may come in any order, among entries that the record
does not know. Nothing of this shows in the service that is loaded. Where keys are names of the
service instead, they are kept in the order of the document: those of operations, shapes, members
and examples, and all keys in the values of examples.
-/

namespace ApiBindings.Service

open Json
open Likeness (Schema EntriesAlike same list table record fieldAlike_ofText isUnknown_ofText)

/-! ### Descriptions that load alike -/

/-- The field of a reference to a shape. -/
def referenceSchema : Schema := [("shape", same)]

/-- The fields of metadata. -/
def metadataSchema : Schema :=
  [("protocol", same), ("signingName", same), ("endpointPrefix", same), ("apiVersion", same),
    ("jsonVersion", same), ("targetPrefix", same), ("uid", same), ("serviceId", same),
    ("serviceFullName", same)]

/-- The fields of an HTTP binding. -/
def httpSchema : Schema := [("method", same), ("requestUri", same)]

/-- The fields of an operation. -/
def operationSchema : Schema :=
  [("name", same), ("http", record httpSchema), ("input", record referenceSchema),
    ("output", record referenceSchema), ("errors", list (record referenceSchema)),
    ("documentation", same)]

/-- The fields of a member. -/
def memberSchema : Schema := [("shape", same), ("locationName", same), ("documentation", same)]

/-- The fields of a shape. -/
def shapeSchema : Schema :=
  [("type", same), ("members", table (record memberSchema)), ("required", same),
    ("member", record memberSchema), ("enum", same), ("documentation", same)]

/-- The fields of an example. Its values are data, so their keys keep their order. -/
def exampleSchema : Schema :=
  [("title", same), ("description", same), ("input", same), ("output", same)]

/-- The fields of a description. -/
def descriptionSchema : Schema :=
  [("metadata", record metadataSchema), ("documentation", same),
    ("operations", table (record operationSchema)), ("shapes", table (record shapeSchema)),
    ("examples", table (list (record exampleSchema)))]

private theorem respects_reference : referenceCodec.Respects (record referenceSchema) :=
  (Fields.Respects.codec (.cons (Codec.respects_same _) .nil)).convert

private theorem respects_metadata : metadataCodec.Respects (record metadataSchema) :=
  (Fields.Respects.codec
    (.cons (Codec.respects_same _) <| .cons (Codec.respects_same _) <|
      .cons (Codec.respects_same _) <| .cons (Codec.respects_same _) <|
      .cons (Codec.respects_same _) <| .cons (Codec.respects_same _) <|
      .cons (Codec.respects_same _) <| .cons (Codec.respects_same _) <|
      .cons (Codec.respects_same _) .nil)).convert

private theorem respects_http : httpCodec.Respects (record httpSchema) :=
  (Fields.Respects.codec
    (.cons (Codec.respects_same _) <| .cons (Codec.respects_same _) .nil)).convert

private theorem respects_operation : operationCodec.Respects (record operationSchema) :=
  (Fields.Respects.codec
    (.cons (Codec.respects_same _) <| .cons respects_http <|
      .cons respects_reference.optional <| .cons respects_reference.optional <|
      .cons respects_reference.list <| .cons (Codec.respects_same _) .nil)).convert

private theorem respects_member : memberCodec.Respects (record memberSchema) :=
  (Fields.Respects.codec
    (.cons (Codec.respects_same _) <| .cons (Codec.respects_same _) <|
      .cons (Codec.respects_same _) .nil)).convert

private theorem respects_shape : shapeCodec.Respects (record shapeSchema) :=
  (Fields.Respects.codec
    (.cons (Codec.respects_same _) <| .cons respects_member.keyed.optional <|
      .cons (Codec.respects_same _) <| .cons respects_member.optional <|
      .cons (Codec.respects_same _) <| .cons (Codec.respects_same _) .nil)).convert.refine

private theorem respects_example : exampleCodec.Respects (record exampleSchema) :=
  (Fields.Respects.codec
    (.cons (Codec.respects_same _) <| .cons (Codec.respects_same _) <|
      .cons (Codec.respects_same _) <| .cons (Codec.respects_same _) .nil)).convert

/-- Descriptions are read like those that are alike. -/
theorem respects_description : descriptionCodec.Respects (record descriptionSchema) :=
  (Fields.Respects.codec
    (.cons respects_metadata <| .cons (Codec.respects_same _) <|
      .cons respects_operation.keyed <| .cons respects_shape.keyed <|
      .cons respects_example.list.keyed .nil)).convert

/-- The field of a document with examples only. -/
def examplesDocumentSchema : Schema := [("examples", table (list (record exampleSchema)))]

/-- Documents with examples are read like those that are alike. -/
theorem respects_examplesDocument : examplesDocumentCodec.Respects (record examplesDocumentSchema) :=
  (Fields.Respects.codec (.cons respects_example.list.keyed .nil)).convert

/-! ### The order of names -/

/-- What a record with the given fields gives to one of them. -/
def givenTo (fields : Schema) (name : String) (o : Outline) : List Outline :=
  o.given (fields.map Prod.fst) name

/-- A shape is in the order of its document if its members are. -/
def ShapeInOrder (o : Outline) (shape : Shape) : Prop :=
  ∀ s, shape = .struct s → s.members.names = (givenTo shapeSchema "members" o).flatMap Outline.keys

/-- An example is in the order of its document if its values are trees that show what is given. -/
structure ExampleInOrder (o : Outline) (e : Example) : Prop where
  input : ∀ v ∈ e.input, ∃ given ∈ givenTo exampleSchema "input" o, Shows given v
  output : ∀ v ∈ e.output, ∃ given ∈ givenTo exampleSchema "output" o, Shows given v

/-- A service is in the order of its document if its operations are, its shapes with their members
and its examples with their values. -/
structure InOrder (o : Outline) (d : Description) : Prop where
  operations : d.operations.names =
    (givenTo descriptionSchema "operations" o).flatMap Outline.keys
  shapes : Lists ShapeInOrder (givenTo descriptionSchema "shapes" o) d.shapes
  examples : Lists (fun o examples => List.Forall₂ ExampleInOrder o.children examples)
    (givenTo descriptionSchema "examples" o) d.examples

variable {room : Nat} {o : Outline}

private theorem distinctKeys_of_givenTo {fields : Schema} {name : String} (hkeys : o.DistinctKeys) :
    ∀ given ∈ givenTo fields name o, given.DistinctKeys :=
  fun _ hgiven => hkeys.of_mem_children (Outline.mem_children_of_given hgiven)

private theorem distinctKeys_of_children {fields : Schema} {name : String}
    (hkeys : o.DistinctKeys) :
    ∀ child ∈ (givenTo fields name o).flatMap Outline.children, child.DistinctKeys := by
  intro child hchild
  obtain ⟨given, hgiven, hchild⟩ := List.mem_flatMap.mp hchild
  exact (distinctKeys_of_givenTo hkeys given hgiven).of_mem_children hchild

private theorem members_of_ofLayout {l : ShapeLayout} {s : Structure}
    (h : Shape.ofLayout l = .ok (.struct s)) : s.members = l.members.getD ∅ := by
  unfold Shape.ofLayout at h
  split at h
  case h_1 =>
    cases h
    rfl
  case h_2 => split at h <;> cases h
  all_goals cases h

private theorem exists_layout_of_decode {shape : Shape} (h : shapeCodec.decode room o = .ok shape) :
    ∃ l, shapeLayoutCodec.decode room o = .ok l ∧ Shape.ofLayout l = .ok shape := by
  obtain ⟨l, hlayout, haccept⟩ := bind_eq_ok_iff.mp h
  refine ⟨l, hlayout, ?_⟩
  dsimp only at haccept
  cases hl : Shape.ofLayout l with
  | error flaw =>
    rw [hl] at haccept
    cases haccept
  | ok shape =>
    rw [hl] at haccept
    cases haccept
    rfl

private theorem shapeInOrder_of_decode {shape : Shape} (hkeys : o.DistinctKeys)
    (h : shapeCodec.decode (room + 2) o = .ok shape) : ShapeInOrder o shape := by
  rintro s rfl
  obtain ⟨l, hlayout, hshape⟩ := exists_layout_of_decode h
  obtain ⟨⟨kind, members, required, element, values, documentation, _⟩, hrecord, rfl⟩ :=
    map_eq_ok_iff.mp hlayout
  obtain ⟨-, hreads, -⟩ := Fields.reads_of_decode (by decide) hrecord
  have hmembers : (Field.optional "members" (tableCodec memberCodec)).Reads (room + 1)
      (givenTo shapeSchema "members" o) members := hreads
  rw [members_of_ofLayout hshape]
  exact (lists_of_reads_optional rfl rfl (distinctKeys_of_givenTo hkeys) hmembers).names

private theorem shows_of_reads {name : String} {given : List Outline} {v? : Option Value}
    (hkeys : ∀ o ∈ given, o.DistinctKeys) (h : (Field.optional name .tree).Reads room given v?) :
    ∀ v ∈ v?, ∃ o ∈ given, Shows o v := by
  rintro v hv
  obtain rfl := Option.mem_def.mp hv
  match given with
  | [] => cases h
  | [o] =>
    have hread : Codec.tree.optional.decode room o = .ok (some v) := h
    by_cases hnull : o = .leaf .null
    · subst hnull
      cases hread
    · rw [Codec.decode_optional _ hnull] at hread
      obtain ⟨w, hw, heq⟩ := map_eq_ok_iff.mp hread
      cases heq
      exact ⟨o, by simp, shows_of_ofOutline (hkeys o (by simp)) hw⟩
  | _ :: _ :: _ => exact h.elim

private theorem exampleInOrder_of_decode {e : Example} (hkeys : o.DistinctKeys)
    (h : exampleCodec.decode (room + 1) o = .ok e) : ExampleInOrder o e := by
  obtain ⟨⟨title, description, input, output, _⟩, hrecord, rfl⟩ := map_eq_ok_iff.mp h
  obtain ⟨-, -, hinput, houtput, -⟩ := Fields.reads_of_decode (by decide) hrecord
  exact ⟨shows_of_reads (distinctKeys_of_givenTo hkeys) hinput,
    shows_of_reads (distinctKeys_of_givenTo hkeys) houtput⟩

private theorem examplesInOrder_of_decode {examples : List Example} (hkeys : o.DistinctKeys)
    (h : exampleCodec.list.decode (room + 2) o = .ok examples) :
    List.Forall₂ ExampleInOrder o.children examples := by
  cases o with
  | leaf => cases h
  | object => cases h
  | array items ending =>
    obtain ⟨found, hfound, hend⟩ := bind_eq_ok_iff.mp h
    obtain ⟨-, rfl⟩ := finish_eq_ok_iff.mp hend
    have hinside : ∀ child ∈ items, child.DistinctKeys := fun _ => hkeys.of_mem_children
    exact ((List.forall₂_and_left _ _).mpr ⟨hinside, forall₂_of_mapM hfound⟩).imp
      fun _ _ h => exampleInOrder_of_decode h.1 h.2

/-- A description that is read is in order. -/
theorem inOrder_of_decode {d : Description} (hkeys : o.DistinctKeys)
    (h : descriptionCodec.decode (room + 4) o = .ok d) : InOrder o d := by
  obtain ⟨⟨metadata, documentation, operations, shapes, examples, _⟩, hrecord, rfl⟩ :=
    map_eq_ok_iff.mp h
  obtain ⟨-, -, hoperations, hshapes, hexamples, -⟩ := Fields.reads_of_decode (by decide) hrecord
  have hgiven : ∀ name, ∀ given ∈ givenTo descriptionSchema name o, given.DistinctKeys :=
    fun _ => distinctKeys_of_givenTo hkeys
  have hchild : ∀ name, ∀ child ∈ (givenTo descriptionSchema name o).flatMap Outline.children,
      child.DistinctKeys := fun _ => distinctKeys_of_children hkeys
  constructor
  · exact (lists_of_reads rfl rfl (hgiven "operations") hoperations).names
  · exact (lists_of_reads rfl rfl (hgiven "shapes") hshapes).imp
      fun child hmem shape => shapeInOrder_of_decode (hchild "shapes" child hmem)
  · exact (lists_of_reads rfl rfl (hgiven "examples") hexamples).imp
      fun child hmem examples => examplesInOrder_of_decode (hchild "examples" child hmem)

namespace Description

private theorem inOrder_nameOperations {d : Description} (h : InOrder o d) :
    InOrder o d.nameOperations where
  operations := by
    rw [← h.operations]
    simp [nameOperations, NameTable.names, NameTable.mapItems, Function.comp_def]
  shapes := h.shapes
  examples := h.examples

/-- The arrangement of records does not show in a service, that of names does. From a document that
loads, any other document loads the same service if its records hold the same fields in any order,
each at any place, among any well-formed entries that the record does not know; the kind of a shape
may come behind what it governs. If no object of the document has a key twice, the service has its
operations, shapes, members and examples in the order of the document, and the values of examples
have their keys in that order at every depth. -/
theorem read_arrangement {source : List Symbol} {d : Description} (h : read source = .ok d) :
    (∀ source' : List Symbol,
      record descriptionSchema (Outline.ofSymbols source).1 (Outline.ofSymbols source').1 →
      (Outline.ofSymbols source').2 = true → read source' = .ok d) ∧
    ((Outline.ofSymbols source).1.DistinctKeys → InOrder (Outline.ofSymbols source).1 d) := by
  obtain ⟨loaded, hloaded, hnamed⟩ := map_eq_ok_iff.mp h
  constructor
  · intro source' halike hend
    exact map_eq_ok_iff.mpr ⟨loaded, respects_description.read hloaded halike hend, hnamed⟩
  · intro hkeys
    obtain ⟨decoded, hdecoded, hsource⟩ := bind_eq_ok_iff.mp hloaded
    split at hsource
    · cases hsource
      rw [← hnamed]
      exact inOrder_nameOperations (inOrder_of_decode hkeys hdecoded)
    · cases hsource

/-- The arrangement of a document with examples does not show in the service they are added to. -/
theorem addExamplesOfText_arrangement {d d' : Description} {text text' : String}
    (h : d.addExamplesOfText text = .ok d')
    (halike : record examplesDocumentSchema (Outline.ofSymbols (symbolsOfText text)).1
      (Outline.ofSymbols (symbolsOfText text')).1)
    (hend : (Outline.ofSymbols (symbolsOfText text')).2 = true) :
    d.addExamplesOfText text' = .ok d' := by
  obtain ⟨more, hmore, hadded⟩ := map_eq_ok_iff.mp h
  exact map_eq_ok_iff.mpr ⟨more, respects_examplesDocument.read hmore halike hend, hadded⟩

/-- The shape of a task. -/
def taskShape : Value :=
  .object [("type", .string "structure"),
    ("members", .object
      [("Title", .object [("shape", .string "Title")]),
        ("Due", .object [("shape", .string "Due"), ("locationName", .string "due")])]),
    ("required", .array [.string "Title"])]

/-- The shape of a task with its kind at the end, members in another arrangement and a note. -/
def annotatedTaskShape : Value :=
  .object [("required", .array [.string "Title"]),
    ("members", .object
      [("Title", .object [("note", .array [.null]), ("shape", .string "Title")]),
        ("Due", .object [("locationName", .string "due"), ("shape", .string "Due")])]),
    ("type", .string "structure")]

/-- Metadata of a service for tasks. -/
def tasksMetadata : Value :=
  .object [("protocol", .string "json"), ("endpointPrefix", .string "tasks"),
    ("apiVersion", .string "1")]

/-- Examples of a service for tasks. -/
def tasksExamples : Value :=
  .object [("PutTask", .array [.object [("input", .object
    [("Title", .string "Tidy"), ("Due", .string "now")])]])]

/-- A document that describes a service for tasks. -/
def tasksDocument : Value :=
  .object [("metadata", tasksMetadata), ("shapes", .object [("Task", taskShape),
    ("Due", .object [("type", .string "timestamp")])]), ("examples", tasksExamples)]

/-- A document that describes the service in another arrangement, and holds a note. -/
def annotatedTasksDocument : Value :=
  .object [("examples", tasksExamples), ("shapes", .object [("Task", annotatedTaskShape),
    ("Due", .object [("type", .string "timestamp")])]), ("metadata", tasksMetadata),
    ("note", .object [("done", .boolean true)])]

/-- Both documents give the service, with its names in their order. -/
theorem tasks_arrangement : ∃ d : Description, ofText tasksDocument.text = .ok d ∧
    ofText annotatedTasksDocument.text = .ok d ∧ InOrder tasksDocument.outline d ∧
    d.shapes.names = ["Task", "Due"] := by
  have hsource : Outline.ofSymbols (symbolsOfText tasksDocument.text) =
      (tasksDocument.outline, true) := ofSymbols_text (List.forall_mem_nil _)
  have hsource' : Outline.ofSymbols (symbolsOfText annotatedTasksDocument.text) =
      (annotatedTasksDocument.outline, true) := ofSymbols_text (List.forall_mem_nil _)
  have htitle : record memberSchema (Value.object [("shape", .string "Title")]).outline
      (Value.object [("note", .array [.null]), ("shape", .string "Title")]).outline :=
    .object (@EntriesAlike.intro _ _ _ [_] [_] [] [_] (.refl _) (.swap _ _ _)
      (.cons (fieldAlike_ofText rfl rfl) .nil) (List.forall_mem_nil _)
      (List.forall_mem_singleton.mpr
        ⟨isUnknown_ofText rfl _, .array (List.forall_mem_singleton.mpr .null)⟩))
  have hdue : record memberSchema
      (Value.object [("shape", .string "Due"), ("locationName", .string "due")]).outline
      (Value.object [("locationName", .string "due"), ("shape", .string "Due")]).outline :=
    .object (@EntriesAlike.intro _ _ _ [_, _] [_, _] [] [] (.refl _) (.swap _ _ _)
      (.cons (fieldAlike_ofText rfl rfl) (.cons (fieldAlike_ofText rfl rfl) .nil))
      (List.forall_mem_nil _) (List.forall_mem_nil _))
  have htask : record shapeSchema taskShape.outline annotatedTaskShape.outline :=
    .object (@EntriesAlike.intro _ _ _ [_, _, _] [_, _, _] [] [] (.refl _)
      (List.reverse_perm [_, _, _])
      (.cons (fieldAlike_ofText rfl rfl) (.cons
        (fieldAlike_ofText rfl (.object (.cons ⟨rfl, htitle⟩ (.cons ⟨rfl, hdue⟩ .nil))))
        (.cons (fieldAlike_ofText rfl rfl) .nil)))
      (List.forall_mem_nil _) (List.forall_mem_nil _))
  have hdocument : record descriptionSchema tasksDocument.outline
      annotatedTasksDocument.outline :=
    .object (@EntriesAlike.intro _ _ _ [_, _, _] [_, _, _] [] [_] (.refl _)
      ((List.reverse_perm [_, _, _]).append_right [_])
      (.cons (fieldAlike_ofText rfl (.refl _)) (.cons
        (fieldAlike_ofText rfl (.object (.cons ⟨rfl, htask⟩ (.cons ⟨rfl, .refl _⟩ .nil))))
        (.cons (fieldAlike_ofText rfl (.refl _)) .nil)))
      (List.forall_mem_nil _)
      (List.forall_mem_singleton.mpr ⟨isUnknown_ofText rfl _,
        .object (List.forall_mem_singleton.mpr rfl)
          (List.forall_mem_singleton.mpr (.boolean true))⟩))
  have hkeys : tasksDocument.outline.DistinctKeys := by
    simp [tasksDocument, tasksMetadata, taskShape, tasksExamples, Value.outline,
      Value.entryOutlines, Value.itemOutlines, keysOf]
  obtain ⟨loaded, hloaded⟩ : ∃ d, descriptionCodec.decode nestingLimit tasksDocument.outline =
      .ok d := ⟨_, by with_unfolding_all rfl⟩
  have hread : ofText tasksDocument.text = .ok loaded.nameOperations := by
    rw [ofText, read, Codec.read, hsource, hloaded]
    rfl
  obtain ⟨harrangement, horder⟩ := read_arrangement hread
  rw [hsource] at harrangement horder
  refine ⟨_, hread, harrangement _ ?_ ?_, horder hkeys, ?_⟩
  · rw [hsource']
    exact hdocument
  · rw [hsource']
  · exact (horder hkeys).shapes.names.trans (by with_unfolding_all rfl)

end Description

end ApiBindings.Service
