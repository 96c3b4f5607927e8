import ApiBindings.Proofs.Codec
import ApiBindings.Service.Document

/-!
# Descriptions read back

A service that came from documents is written as a document that gives the service again: nothing
is lost or reordered. What documents cannot hold cannot have come from them. Operations are named,
no kind without a treatment of its own has the tag of one that has, and example trees nest only as
deeply as the reader follows. Only numbers are assumed to be such as are kept exactly.
-/

namespace ApiBindings.Service

open Json

variable {room : Nat}

/-! ### Restored fields -/

private theorem restores_required {α : Type} {name : String} {c : Codec α} {a : α}
    (h : c.Restores room a) : (Field.required name c).Restores room a := h

private theorem restores_defaulted {α : Type} {name : String} {c : Codec α} {default a : α}
    (h : c.Restores room a) : (Field.defaulted name c default).Restores room a := h

private theorem restores_optional {α : Type} {name : String} {c : Codec α} {a : Option α}
    (h : ∀ b ∈ a, c.Restores room b ∧ c.encode b ≠ .null) :
    (Field.optional name c).Restores room a := by
  cases a with
  | none => rfl
  | some b => exact Codec.restores_some (h b rfl).1 (h b rfl).2

private theorem restores_nullable {α : Type} {name : String} {c : Codec α} {a : Option α}
    (h : ∀ b ∈ a, c.Restores room b ∧ c.encode b ≠ .null) :
    (Field.nullable name c).Restores room a := by
  cases a with
  | none => exact Codec.restores_none c
  | some b => exact Codec.restores_some (h b rfl).1 (h b rfl).2

private theorem restores_omitting {α : Type} {name : String} {c : Codec α} {default a : α}
    {omits : α → Bool} (homits : omits a = true → default = a) (h : c.Restores room a) :
    (Field.omitting name c default omits).Restores room a := by
  unfold Field.Restores
  split
  next hleft => exact congrArg some (homits hleft)
  next => exact h

private theorem string_ne_null (s : Option String) :
    ∀ t ∈ s, Codec.string.Restores room t ∧ Codec.string.encode t ≠ .null :=
  fun t _ => ⟨Codec.restores_string t, by simp [Codec.string]⟩

private theorem foldl_put_entries {α : Type} (t : NameTable α) :
    t.entries.foldl (fun t e => t.put e.1 e.2) ∅ = t := by
  have hput : ∀ (es : List (String × α)) (s : NameTable α),
      ((s.entries ++ es).map Prod.fst).Nodup →
        (es.foldl (fun t e => t.put e.1 e.2) s).entries = s.entries ++ es := by
    intro es
    induction es with
    | nil => intro s _; rw [List.foldl_nil, List.append_nil]
    | cons e es ih =>
      intro s hnodup
      have hnew : e.1 ∉ s.entries.map Prod.fst := by
        rw [List.map_append, List.nodup_append] at hnodup
        exact fun hmem => hnodup.2.2 e.1 hmem e.1 (by simp) rfl
      have hentries : (s.put e.1 e.2).entries = s.entries ++ [e] := putEntry_of_not_mem hnew
      rw [List.foldl_cons, ih, hentries, List.append_assoc, List.singleton_append]
      rw [hentries, List.append_assoc, List.singleton_append]
      exact hnodup
  apply NameTable.ext
  exact hput t.entries ∅ t.distinct

private theorem restores_table {α : Type} {c : Codec α} {t : NameTable α}
    (h : ∀ e ∈ t.entries, c.Restores room e.2) : (tableCodec c).Restores (room + 1) t :=
  Codec.restores_keyed (foldl_put_entries t) h

private theorem forall_gives_of_table {α : Type} {c : Codec α} {t : NameTable α}
    (h : (tableCodec c).Gives (room + 1) t) : ∀ e ∈ t.entries, c.Gives room e.2 := by
  refine h.keyed (motive := fun t => ∀ e ∈ t.entries, c.Gives room e.2) ?_ ?_
  · intro e he
    cases he
  · intro key a t ha ht e he
    rcases mem_putEntry he with he | he
    · exact ht e he
    · exact he ▸ ha

/-! ### Restored parts of a description -/

private theorem restores_reference (shape : String) : referenceCodec.Restores (room + 1) shape :=
  Codec.restores_convert rfl
    (Fields.restores_codec (by decide) ⟨restores_required (Codec.restores_string shape), trivial⟩)

/-- Metadata are restored. -/
theorem restores_metadata (m : Metadata) : metadataCodec.Restores (room + 1) m := by
  have hprotocol : (Codec.choice (Protocol.all.map fun p => (p.name, p)) Protocol.name).Restores
      room m.protocol := Codec.restores_choice (by cases m.protocol <;> rfl)
  refine Codec.restores_convert rfl (Fields.restores_codec (by decide)
    ⟨restores_required hprotocol, restores_nullable (string_ne_null _),
      restores_required (Codec.restores_string _), restores_required (Codec.restores_string _),
      restores_nullable (string_ne_null _), restores_nullable (string_ne_null _),
      restores_nullable (string_ne_null _), restores_nullable (string_ne_null _),
      restores_nullable (string_ne_null _), trivial⟩)

private theorem restores_http (b : HttpBinding) : httpCodec.Restores (room + 1) b := by
  have hmethod : (Codec.choice (Method.all.map fun m => (m.name, m)) Method.name).Restores
      room b.method := Codec.restores_choice (by cases b.method <;> rfl)
  exact Codec.restores_convert rfl (Fields.restores_codec (by decide)
    ⟨restores_required hmethod, restores_required (Codec.restores_string _), trivial⟩)

/-- Operations are restored. -/
theorem restores_operation (o : Operation) : operationCodec.Restores (room + 3) o := by
  have hreference : ∀ {room} (s : Option String), ∀ shape ∈ s,
      referenceCodec.Restores (room + 1) shape ∧ referenceCodec.encode shape ≠ .null :=
    fun _ shape _ =>
      ⟨restores_reference shape, by simp [referenceCodec, Codec.convert, Fields.codec]⟩
  exact Codec.restores_convert rfl (Fields.restores_codec (by decide)
    ⟨restores_defaulted (Codec.restores_string _), restores_required (restores_http _),
      restores_optional (hreference _), restores_optional (hreference _),
      restores_omitting (fun h => (List.isEmpty_iff.mp h).symm)
        (Codec.restores_list fun shape _ => restores_reference shape),
      restores_optional (string_ne_null _), trivial⟩)

private theorem restores_member (m : Member) : memberCodec.Restores (room + 1) m :=
  Codec.restores_convert rfl (Fields.restores_codec (by decide)
    ⟨restores_required (Codec.restores_string _), restores_optional (string_ne_null _),
      restores_optional (string_ne_null _), trivial⟩)

private theorem restores_shapeLayout (l : ShapeLayout) :
    shapeLayoutCodec.Restores (room + 3) l := by
  have hstrings : ∀ (names : Option (List String)), ∀ texts ∈ names,
      Codec.string.list.Restores (room + 2) texts ∧ Codec.string.list.encode texts ≠ .null :=
    fun _ texts _ => ⟨Codec.restores_list fun s _ => Codec.restores_string s,
      by simp [Codec.list]⟩
  exact Codec.restores_convert rfl (Fields.restores_codec (by decide)
    ⟨restores_defaulted (Codec.restores_string _),
      restores_optional fun t _ => ⟨restores_table fun e _ => restores_member e.2,
        by simp [tableCodec, Codec.keyed]⟩,
      restores_optional (hstrings _),
      restores_optional fun m _ => ⟨restores_member m,
        by simp [memberCodec, Codec.convert, Fields.codec]⟩,
      restores_optional (hstrings _), restores_optional (string_ne_null _), trivial⟩)

/-! ### Shapes and their layouts -/

namespace Shape

/-- The tags that a shape of another kind cannot have: none at all, and those of the kinds with a
treatment of their own. -/
def reservedTags : List String :=
  ["", "structure", "list", "map", "string", "integer", "long", "boolean"]

private theorem getD_present (names : List String) : (present names).getD [] = names := by
  cases names <;> rfl

private theorem ofLayout_other {l : ShapeLayout} (h : l.kind ∉ reservedTags) :
    ofLayout l = .ok (.other l.kind) := by
  unfold ofLayout
  split <;> simp_all [reservedTags]

private theorem ofLayout_ne_other {l : ShapeLayout} {tag : String} (htag : tag ∈ reservedTags) :
    ofLayout l ≠ .ok (.other tag) := by
  intro h
  unfold ofLayout at h
  split at h
  case h_2 => split at h <;> cases h
  case h_9 => simp_all [reservedTags]
  all_goals cases h

/-- A shape is that of its layout, unless it is of another kind with a reserved tag. -/
theorem ofLayout_layout_iff (s : Shape) :
    ofLayout s.layout = .ok s ↔ ∀ tag ∈ reservedTags, s ≠ .other tag := by
  constructor
  · rintro h tag htag rfl
    exact ofLayout_ne_other htag h
  · intro h
    cases s with
    | other kind => exact ofLayout_other (l := (other kind).layout) fun hkind => h kind hkind rfl
    | struct s =>
      change Except.ok (struct ⟨s.members, (present s.required).getD [], s.documentation⟩) = _
      rw [getD_present]
    | string values =>
      change Except.ok (string ((present values).getD [])) = _
      rw [getD_present]
    | list | map | integer | long | boolean => rfl

end Shape

/-- Shapes are restored, unless they are of another kind with a reserved tag. -/
theorem restores_shape {s : Shape} (hs : ∀ tag ∈ Shape.reservedTags, s ≠ .other tag) :
    shapeCodec.Restores (room + 3) s := by
  refine Codec.restores_refine ?_ (restores_shapeLayout _)
  rw [(Shape.ofLayout_layout_iff s).mpr hs]
  rfl

private theorem not_reserved_of_gives {s : Shape} (h : shapeCodec.Gives room s) :
    ∀ tag ∈ Shape.reservedTags, s ≠ .other tag := by
  rintro tag htag rfl
  obtain ⟨l, -, hl⟩ := Codec.exists_of_gives_refine h
  cases hlayout : Shape.ofLayout l with
  | error flaw =>
    rw [hlayout] at hl
    cases hl
  | ok s =>
    rw [hlayout] at hl
    cases hl
    exact Shape.ofLayout_ne_other htag hlayout

/-! ### Examples and their trees -/

/-- The trees of an example. -/
def Example.trees (e : Example) : List Value := e.input.toList ++ e.output.toList

/-- The trees of examples by operation. -/
def treesOf (t : NameTable (List Example)) : List Value :=
  t.entries.flatMap fun e => e.2.flatMap Example.trees

/-- A tree that may stand in an example: it fits, and is not null, which stands for none. -/
def Exemplary (room : Nat) (v : Value) : Prop := v ≠ .null ∧ v.Fits room

/-- Examples are restored if their trees fit and have exact numbers. -/
theorem restores_example {e : Example}
    (htrees : ∀ v ∈ e.trees, Exemplary room v ∧ ∀ n ∈ v.numbers, n.IsExact) :
    exampleCodec.Restores (room + 1) e := by
  have htree : ∀ v ∈ e.trees, Codec.tree.Restores room v ∧ Codec.tree.encode v ≠ .null :=
    fun v hv => ⟨Codec.restores_tree (htrees v hv).1.2 (htrees v hv).2, (htrees v hv).1.1⟩
  exact Codec.restores_convert rfl (Fields.restores_codec (by decide)
    ⟨restores_defaulted (Codec.restores_string _), restores_defaulted (Codec.restores_string _),
      restores_optional fun v hv => htree v (by simp [Example.trees, Option.mem_def.mp hv]),
      restores_optional fun v hv => htree v (by simp [Example.trees, Option.mem_def.mp hv]),
      trivial⟩)

private theorem restores_examples {t : NameTable (List Example)}
    (htrees : ∀ v ∈ treesOf t, Exemplary room v ∧ ∀ n ∈ v.numbers, n.IsExact) :
    examplesCodec.Restores (room + 3) t :=
  restores_table fun e he => Codec.restores_list fun x hx => restores_example fun v hv =>
    htrees v (List.mem_flatMap.mpr ⟨e, he, List.mem_flatMap.mpr ⟨x, hx, hv⟩⟩)

private theorem exemplary_of_gives_example {e : Example} (h : exampleCodec.Gives (room + 1) e) :
    ∀ v ∈ e.trees, Exemplary room v := by
  have htree : ∀ {v : Option Value}, some none = some v ∨ Codec.tree.optional.Gives room v →
      ∀ w ∈ v, Exemplary room w := by
    rintro v (hv | hv) w hw
    · cases hv
      cases hw
    · cases hw
      obtain ⟨o, ho, hdecode⟩ := Codec.exists_of_gives_some hv
      refine ⟨?_, Codec.Gives.fits ⟨o, hdecode⟩⟩
      rintro rfl
      exact ho (Codec.eq_null_of_ofOutline hdecode)
  obtain ⟨⟨title, description, input, output, _⟩, hrecord, rfl⟩ := Codec.exists_of_gives_convert h
  obtain ⟨-, -, hinput, houtput, -⟩ := Fields.gives_of_codec hrecord
  intro v hv
  rcases List.mem_append.mp hv with hv | hv
  · exact htree hinput v (Option.mem_toList.mp hv)
  · exact htree houtput v (Option.mem_toList.mp hv)

private theorem exemplary_of_gives_examples {t : NameTable (List Example)}
    (h : examplesCodec.Gives (room + 3) t) : ∀ v ∈ treesOf t, Exemplary room v := by
  have hitems : ∀ e ∈ t.entries, exampleCodec.list.Gives (room + 2) e.2 :=
    forall_gives_of_table h
  intro v hv
  obtain ⟨e, he, hv⟩ := List.mem_flatMap.mp hv
  obtain ⟨x, hx, hv⟩ := List.mem_flatMap.mp hv
  exact exemplary_of_gives_example ((hitems e he).list x hx) v hv

/-! ### Descriptions -/

namespace Description

/-- The trees in the examples of a service. -/
def exampleTrees (d : Description) : List Value := treesOf d.examples

/-- A service that a document can hold. -/
structure Storable (d : Description) : Prop where
  named : d.nameOperations = d
  tags : ∀ e ∈ d.shapes.entries, ∀ tag ∈ Shape.reservedTags, e.2 ≠ .other tag
  trees : ∀ v ∈ d.exampleTrees, Exemplary 123 v

/-- Services that come from documents: read from text or from bytes, with examples of any number of
further documents. -/
inductive Loaded : Description → Prop
  | ofText {text : String} {d : Description} (h : Description.ofText text = .ok d) : Loaded d
  | ofBytes {bytes : ByteArray} {d : Description} (h : Description.ofBytes bytes = .ok d) : Loaded d
  | addExamples {d d' : Description} {text : String} (hd : Loaded d)
      (h : d.addExamplesOfText text = .ok d') : Loaded d'

private theorem nameOperations_nameOperations (d : Description) :
    d.nameOperations.nameOperations = d.nameOperations := by
  have htable : d.nameOperations.nameOperations.operations = d.nameOperations.operations := by
    apply NameTable.ext
    simp only [nameOperations, NameTable.mapItems, List.map_map]
    apply List.map_congr_left
    rintro ⟨key, operation⟩ -
    simp only [Function.comp_apply]
    split
    · split <;> rfl
    · rfl
  exact congrArg (fun operations => { d with operations := operations }) htable

/-- A service that is read can be held by a document. -/
theorem storable_of_read {source : List Symbol} {d : Description} (h : read source = .ok d) :
    d.Storable := by
  obtain ⟨d, hd, rfl⟩ := map_eq_ok_iff.mp h
  obtain ⟨⟨metadata, documentation, operations, shapes, examples, _⟩, hrecord, rfl⟩ :=
    Codec.exists_of_gives_convert (Codec.gives_of_read hd)
  obtain ⟨-, -, -, hshapes, hexamples, -⟩ := Fields.gives_of_codec hrecord
  refine ⟨nameOperations_nameOperations _, ?_, ?_⟩
  · rcases hshapes with hmissing | hshapes
    · cases hmissing
      intro e he
      cases he
    · exact fun e he => not_reserved_of_gives (forall_gives_of_table hshapes e he)
  · rcases hexamples with hmissing | hexamples
    · cases hmissing
      intro v hv
      cases hv
    · exact exemplary_of_gives_examples hexamples

private theorem mem_treesOf_put {t : NameTable (List Example)} {key : String} {more : List Example}
    {v : Value} (h : v ∈ treesOf (t.put key ((t.find? key).getD [] ++ more))) :
    v ∈ treesOf t ∨ v ∈ more.flatMap Example.trees := by
  obtain ⟨e, he, hv⟩ := List.mem_flatMap.mp h
  rcases mem_putEntry he with he | he
  · exact .inl (List.mem_flatMap.mpr ⟨e, he, hv⟩)
  · rw [he, List.flatMap_append, List.mem_append] at hv
    refine hv.imp_left fun hv => ?_
    cases hfound : t.find? key with
    | none =>
      rw [hfound] at hv
      cases hv
    | some examples =>
      rw [hfound] at hv
      exact List.mem_flatMap.mpr ⟨(key, examples), NameTable.mem_entries_of_find? hfound, hv⟩

private theorem mem_exampleTrees_addExamples {d : Description} {more : NameTable (List Example)}
    {v : Value} (h : v ∈ (d.addExamples more).exampleTrees) :
    v ∈ d.exampleTrees ∨ v ∈ treesOf more := by
  have hfold : ∀ (es : List (String × List Example)) (t : NameTable (List Example)),
      v ∈ treesOf (es.foldl (fun t e => t.put e.1 ((t.find? e.1).getD [] ++ e.2)) t) →
        v ∈ treesOf t ∨ v ∈ es.flatMap fun e => e.2.flatMap Example.trees := by
    intro es
    induction es with
    | nil => exact fun t hv => .inl hv
    | cons e es ih =>
      intro t hv
      rw [List.flatMap_cons, List.mem_append]
      rcases ih _ hv with hv | hv
      · exact (mem_treesOf_put hv).imp_right .inl
      · exact .inr (.inr hv)
  exact hfold more.entries d.examples h

/-- A service that comes from documents can be held by a document. -/
theorem Loaded.storable {d : Description} (h : Loaded d) : d.Storable := by
  induction h with
  | ofText h => exact storable_of_read h
  | ofBytes h => exact storable_of_read h
  | @addExamples d d' text hd h ih =>
    obtain ⟨more, hmore, rfl⟩ := map_eq_ok_iff.mp h
    obtain ⟨⟨examples, _⟩, hrecord, rfl⟩ :=
      Codec.exists_of_gives_convert (Codec.gives_of_read hmore)
    have htrees : ∀ v ∈ treesOf examples, Exemplary 123 v := by
      rcases (Fields.gives_of_codec hrecord).1 with hmissing | hexamples
      · cases hmissing
        intro v hv
        cases hv
      · exact exemplary_of_gives_examples hexamples
    refine ⟨congrArg (Description.addExamples · examples) ih.named, ih.tags, fun v hv => ?_⟩
    rcases mem_exampleTrees_addExamples hv with hv | hv
    · exact ih.trees v hv
    · exact htrees v hv

/-- A service that a document can hold is read back, if the numbers in its examples are exact. -/
theorem ofText_text {d : Description} (hd : d.Storable)
    (hexact : ∀ v ∈ d.exampleTrees, ∀ n ∈ v.numbers, n.IsExact) : ofText d.text = .ok d := by
  have hrestores : descriptionCodec.Restores nestingLimit d :=
    Codec.restores_convert rfl (Fields.restores_codec (by decide)
      ⟨restores_required (restores_metadata _), restores_optional (string_ne_null _),
        restores_defaulted (restores_table fun e _ => restores_operation e.2),
        restores_defaulted (restores_table fun e he => restores_shape (hd.tags e he)),
        restores_omitting (fun h => NameTable.ext (List.isEmpty_iff.mp h).symm)
          (restores_examples fun v hv => ⟨hd.trees v hv, hexact v hv⟩), trivial⟩)
  rw [ofText, read, text, Codec.read_write hrestores]
  exact congrArg Except.ok hd.named

/-- A service that a document can hold is read back from bytes too. -/
theorem ofBytes_text {d : Description} (hd : d.Storable)
    (hexact : ∀ v ∈ d.exampleTrees, ∀ n ∈ v.numbers, n.IsExact) :
    ofBytes d.text.toUTF8 = .ok d := by
  rw [ofBytes, symbolsOfBytes_toUTF8]
  exact ofText_text hd hexact

/-- The description format round-trips. A service that was read from documents, with the examples of
any number of documents, is written as a text that gives the service again, be it read as text or
as bytes, so that writing it again gives the same text. Its example values must have numbers that
are kept exactly. Every single shape is that of its layout, unless it is of another kind with no tag
or a reserved one. -/
theorem description_round_trip :
    (∀ d : Description, Loaded d → (∀ v ∈ d.exampleTrees, ∀ n ∈ v.numbers, n.IsExact) →
      ofText d.text = .ok d ∧ ofBytes d.text.toUTF8 = .ok d ∧
        (ofText d.text).map Description.text = .ok d.text) ∧
    ∀ s : Shape, Shape.ofLayout s.layout = .ok s ↔ ∀ tag ∈ Shape.reservedTags, s ≠ .other tag := by
  refine ⟨fun d hd hexact => ?_, Shape.ofLayout_layout_iff⟩
  have hagain := ofText_text hd.storable hexact
  refine ⟨hagain, ofBytes_text hd.storable hexact, ?_⟩
  rw [hagain]
  rfl

/-- An archive whose description leaves out what may be missing and holds what is not known. -/
def archiveText : String :=
  "\x7b\"shapes\":\x7b\"Items\":\x7b\"type\":\"list\",\"member\":\x7b\"shape\":\"Item\"\x7d\x7d,
    \"Item\":\x7b\"type\":\"structure\",\"required\":[\"Key\"],\"members\":\x7b
      \"Key\":\x7b\"shape\":\"Key\",\"locationName\":\"key\"\x7d,\"Since\":\x7b\"shape\":\"Since\"\x7d\x7d\x7d,
    \"Key\":\x7b\"type\":\"string\",\"enum\":[\"hot\",\"cold\"],\"pattern\":\".*\"\x7d,
    \"Since\":\x7b\"type\":\"timestamp\"\x7d\x7d,
  \"operations\":\x7b\"ListItems\":\x7b\"http\":[\"POST\",\"/\"],\"output\":\x7b\"shape\":\"Items\"\x7d\x7d\x7d,
  \"metadata\":\x7b\"protocol\":\"json\",\"apiVersion\":\"1\",\"endpointPrefix\":\"archive\"\x7d\x7d"

/-- An example of the archive with the greatest and the least number that is kept exactly. -/
def archiveExamplesText : String :=
  "\x7b\"examples\":\x7b\"ListItems\":[\x7b\"title\":\"All\\u0001 items\",\"input\":null,
    \"output\":[\x7b\"high\":18446744073709551615,\"low\":-9223372036854775808\x7d,[]]\x7d]\x7d\x7d"

set_option maxRecDepth 4000 in
/-- The archive and its example are read back from what is written of them. -/
theorem archive_round_trip : ∃ d d' : Description,
    ofText archiveText = .ok d ∧ d.addExamplesOfText archiveExamplesText = .ok d' ∧
      (∀ v ∈ d'.exampleTrees, ∀ n ∈ v.numbers, n.IsExact) ∧
      ofText d'.text = .ok d' ∧ ofBytes d'.text.toUTF8 = .ok d' := by
  have hnumbers : (((ofText archiveText).bind (·.addExamplesOfText archiveExamplesText)).map
      fun d => d.exampleTrees.flatMap Value.numbers).toOption =
        some [.integer 18446744073709551615, .integer (-9223372036854775808)] := by
    -- the kernel is slow to take long texts apart, so their characters are put in their places
    simp only [addExamplesOfText, ofText, symbolsOfText]
    rw [show archiveText.toList = _ from String.toList_ofList,
      show archiveExamplesText.toList = _ from String.toList_ofList]
    decide +kernel
  cases hloaded : (ofText archiveText).bind (·.addExamplesOfText archiveExamplesText) with
  | error fault =>
    rw [hloaded] at hnumbers
    cases hnumbers
  | ok d' =>
    obtain ⟨d, hd, hd'⟩ := bind_eq_ok_iff.mp hloaded
    rw [hloaded] at hnumbers
    have hlisted : d'.exampleTrees.flatMap Value.numbers =
        [.integer 18446744073709551615, .integer (-9223372036854775808)] :=
      Option.some.inj hnumbers
    have hexact : ∀ v ∈ d'.exampleTrees, ∀ n ∈ v.numbers, n.IsExact := by
      intro v hv n hn
      have hmem : n ∈ d'.exampleTrees.flatMap Value.numbers := List.mem_flatMap.mpr ⟨v, hv, hn⟩
      rw [hlisted] at hmem
      simp only [List.mem_cons, List.not_mem_nil, or_false] at hmem
      rcases hmem with rfl | rfl <;> decide
    obtain ⟨htext, hbytes, -⟩ :=
      description_round_trip.1 d' (.addExamples (.ofText hd) hd') hexact
    exact ⟨d, d', hd, hd', hexact, htext, hbytes⟩

end Description

end ApiBindings.Service
