import ApiBindings.Proofs.Codec
import ApiBindings.Service.Document

/-!
# Merged examples

Documents with examples are merged into a service one after the other. Each operation keeps the
examples that it has, and those of the documents follow in their order; each operation keeps its
place among the others, and new ones follow in the order in which they first appear. A document that
cannot be read ends the merging, and nothing is left of it but the fault.
-/

namespace ApiBindings.Service

open Json

/-! ### Lists under names -/

namespace NameTable

variable {α : Type}

/-- The list under a name; there is nothing in it if the name is not in the table. -/
def listUnder (t : NameTable (List α)) (name : String) : List α := (t.find? name).getD []

private theorem listUnder_of_notMem {t : NameTable (List α)} {name : String} (h : name ∉ t.names) :
    t.listUnder name = [] := by
  cases hfound : t.find? name with
  | none => rw [listUnder, hfound, Option.getD_none]
  | some items => exact absurd (List.mem_map_of_mem (mem_entries_of_find? hfound)) h

/-- Items put behind those that are under a name. -/
def append (t : NameTable (List α)) (name : String) (items : List α) : NameTable (List α) :=
  t.put name (t.listUnder name ++ items)

/-- Lists put behind those under their names, one after the other. -/
def extend (t : NameTable (List α)) (entries : List (String × List α)) : NameTable (List α) :=
  entries.foldl (fun t e => t.append e.1 e.2) t

/-- The items under a name in entries, where it may come up again. -/
def itemsUnder (name : String) (entries : List (String × List α)) : List α :=
  entries.flatMap fun e => if name = e.1 then e.2 else []

private theorem itemsUnder_entries (name : String) (t : NameTable (List α)) :
    itemsUnder name t.entries = t.listUnder name := by
  obtain ⟨entries, distinct⟩ := t
  simp only [listUnder, find?]
  induction entries with
  | nil => rfl
  | cons e entries ih =>
    obtain ⟨hfresh, hdistinct⟩ := List.nodup_cons.mp distinct
    rw [itemsUnder, List.flatMap_cons, List.lookup_cons]
    by_cases hname : name = e.1
    · have hnone : entries.flatMap (fun e => if name = e.1 then e.2 else []) = [] := by
        rw [List.flatMap_eq_nil_iff]
        intro other hother
        rw [if_neg]
        rintro rfl
        exact hfresh (hname ▸ List.mem_map_of_mem hother)
      rw [hnone, if_pos hname, beq_iff_eq.mpr hname, List.append_nil, Option.getD_some]
    · rw [if_neg hname, List.nil_append, beq_eq_false_iff_ne.mpr hname]
      exact ih hdistinct

private theorem listUnder_append (name other : String) (items : List α) (t : NameTable (List α)) :
    (t.append name items).listUnder other =
      t.listUnder other ++ if other = name then items else [] := by
  rw [append, listUnder, find?_put]
  split
  next h => rw [h, Option.getD_some]
  next => rw [List.append_nil, listUnder]

/-- Items are put behind those that are under their name, in order. -/
theorem listUnder_extend (name : String) (t : NameTable (List α))
    (entries : List (String × List α)) :
    (t.extend entries).listUnder name = t.listUnder name ++ itemsUnder name entries := by
  induction entries generalizing t with
  | nil => exact (List.append_nil _).symm
  | cons e entries ih =>
    have hnext := ih (t.append e.1 e.2)
    rwa [listUnder_append, List.append_assoc] at hnext

private theorem extend_append (t : NameTable (List α)) (entries more : List (String × List α)) :
    t.extend (entries ++ more) = (t.extend entries).extend more :=
  List.foldl_append

/-- Names keep their places, and new ones follow in the order in which they first appear. -/
theorem names_extend (t : NameTable (List α)) (entries : List (String × List α)) :
    (t.extend entries).names =
      t.names ++ ((entries.map Prod.fst).removeAll t.names).eraseDups := by
  induction entries generalizing t with
  | nil => exact (List.append_nil _).symm
  | cons e entries ih =>
    have hnext := ih (t.append e.1 e.2)
    rw [append, names_put] at hnext
    refine hnext.trans ?_
    by_cases hname : e.1 ∈ t.names
    · simp [List.cons_removeAll, hname]
    · have hrest : (entries.map Prod.fst).removeAll (t.names ++ [e.1]) =
          ((entries.map Prod.fst).removeAll t.names).filter (fun name => !name == e.1) := by
        rw [List.removeAll, List.removeAll, List.filter_filter]
        apply List.filter_congr
        intro name _
        by_cases h : name = e.1 <;> simp [h]
      rw [if_neg hname, hrest, List.map_cons, List.cons_removeAll, if_pos (by simpa using hname),
        List.eraseDups_cons, List.append_assoc, List.singleton_append]

end NameTable

namespace Description

/-! ### Merging documents -/

/-- The examples of a document. -/
def examplesOfText (text : String) : Except Fault (NameTable (List Example)) :=
  examplesDocumentCodec.read (symbolsOfText text)

/-- What comes of adding tables of examples to a service, one after the other. Every operation has
the examples of each table in order behind those it had. Operations with examples keep their order,
and new ones follow in the order in which they first appear. Nothing else changes. -/
structure Gains (d : Description) (tables : List (NameTable (List Example)))
    (merged : Description) : Prop where
  examples : ∀ operation, merged.examplesFor operation =
    d.examplesFor operation ++ tables.flatMap (·.listUnder operation)
  names : merged.examples.names = d.examples.names ++
    ((tables.flatMap NameTable.names).removeAll d.examples.names).eraseDups
  distinct : merged.examples.names.Nodup
  rest : merged = { d with examples := merged.examples }

/-- Adding the entries of tables adds their examples. -/
private theorem gains_extend (d : Description) (tables : List (NameTable (List Example))) :
    Gains d tables { d with
      examples := d.examples.extend (tables.flatMap NameTable.entries) } where
  examples := by
    intro operation
    have hitems : NameTable.itemsUnder operation (tables.flatMap NameTable.entries) =
        tables.flatMap (·.listUnder operation) := by
      rw [NameTable.itemsUnder, List.flatMap_assoc]
      congr 1
      funext t
      exact t.itemsUnder_entries operation
    exact (NameTable.listUnder_extend operation d.examples _).trans (by rw [hitems]; rfl)
  names := by
    rw [NameTable.names_extend, List.map_flatMap]
    rfl
  distinct := (d.examples.extend _).distinct
  rest := rfl

private theorem addExamplesOfText_of_ok {text : String} {table : NameTable (List Example)}
    (h : examplesOfText text = .ok table) (d : Description) :
    d.addExamplesOfText text =
      .ok { d with examples := d.examples.extend table.entries } :=
  map_eq_ok_iff.mpr ⟨table, h, rfl⟩

private theorem addExamplesOfText_of_error {text : String} {fault : Fault}
    (h : examplesOfText text = .error fault) (d : Description) :
    d.addExamplesOfText text = .error fault := by
  rw [examplesOfText] at h
  rw [addExamplesOfText, h]
  rfl

/-- Documents that can be read are merged by adding the entries of all. -/
theorem foldlM_addExamplesOfText {documents : List String}
    {tables : List (NameTable (List Example))}
    (h : documents.map examplesOfText = tables.map .ok) (d : Description) :
    documents.foldlM addExamplesOfText d = .ok { d with
      examples := d.examples.extend (tables.flatMap NameTable.entries) } := by
  induction documents generalizing d tables with
  | nil =>
    obtain rfl := List.map_eq_nil_iff.mp h.symm
    rfl
  | cons text documents ih =>
    obtain ⟨table, tables, rfl, htable, htables⟩ := List.map_eq_cons_iff.mp h.symm
    rw [List.foldlM_cons, addExamplesOfText_of_ok htable.symm]
    refine (ih htables.symm _).trans ?_
    rw [List.flatMap_cons, NameTable.extend_append]

/-- Merging fails exactly at the first document that cannot be read. -/
theorem foldlM_addExamplesOfText_eq_error_iff {documents : List String} {fault : Fault}
    (d : Description) :
    documents.foldlM addExamplesOfText d = .error fault ↔
      ∃ before text after, documents = before ++ text :: after ∧
        (∀ earlier ∈ before, ∃ table, examplesOfText earlier = .ok table) ∧
        examplesOfText text = .error fault := by
  induction documents generalizing d with
  | nil => exact iff_of_false nofun (by rintro ⟨before, text, after, h, -⟩; simp at h)
  | cons first documents ih =>
    rw [List.foldlM_cons]
    cases hfirst : examplesOfText first with
    | error refused =>
      rw [addExamplesOfText_of_error hfirst]
      constructor
      · intro h
        cases h
        exact ⟨[], first, documents, rfl, by simp, hfirst⟩
      · rintro ⟨before, text, after, hdocuments, hbefore, htext⟩
        cases before with
        | nil =>
          obtain ⟨rfl, rfl⟩ := List.cons.inj hdocuments
          rw [hfirst] at htext
          cases htext
          rfl
        | cons earlier before =>
          obtain ⟨rfl, -⟩ := List.cons.inj hdocuments
          obtain ⟨table, htable⟩ := hbefore first (by simp)
          rw [hfirst] at htable
          cases htable
    | ok table =>
      rw [addExamplesOfText_of_ok hfirst]
      refine (ih _).trans ?_
      constructor
      · rintro ⟨before, text, after, rfl, hbefore, htext⟩
        exact ⟨first :: before, text, after, rfl,
          List.forall_mem_cons.mpr ⟨⟨table, hfirst⟩, hbefore⟩, htext⟩
      · rintro ⟨before, text, after, hdocuments, hbefore, htext⟩
        cases before with
        | nil =>
          obtain ⟨rfl, -⟩ := List.cons.inj hdocuments
          rw [hfirst] at htext
          cases htext
        | cons earlier before =>
          obtain ⟨rfl, rfl⟩ := List.cons.inj hdocuments
          exact ⟨before, text, after, rfl, (List.forall_mem_cons.mp hbefore).2, htext⟩

/-- Two tables without an operation in common give the same examples in either order. -/
private theorem Gains.examplesFor_eq_swap {d merged merged' : Description}
    {table table' : NameTable (List Example)} (happart : ∀ name ∈ table.names, name ∉ table'.names)
    (h : Gains d [table, table'] merged) (h' : Gains d [table', table] merged')
    (operation : String) : merged.examplesFor operation = merged'.examplesFor operation := by
  rw [h.examples, h'.examples]
  by_cases hname : operation ∈ table.names
  · simp [NameTable.listUnder_of_notMem (happart operation hname)]
  · simp [NameTable.listUnder_of_notMem hname]

/-- Merging examples loses and reorders nothing. If all documents can be read, merging them one
after the other succeeds: each operation has the examples that it had and then those of each
document in order, and each operation keeps its place, with new ones behind in the order in which
they first appear. Merging fails exactly at the first document that cannot be read, and then with its fault
alone, whatever it is merged into. Two documents without an operation in common give the same
examples in either order. -/
theorem merged_examples_follow_in_order (d : Description) (documents : List String) :
    (∀ tables, documents.map examplesOfText = tables.map .ok →
      ∃ merged, documents.foldlM addExamplesOfText d = .ok merged ∧ Gains d tables merged) ∧
    (∀ fault, documents.foldlM addExamplesOfText d = .error fault ↔
      ∃ before text after, documents = before ++ text :: after ∧
        (∀ earlier ∈ before, ∃ table, examplesOfText earlier = .ok table) ∧
        examplesOfText text = .error fault) ∧
    (∀ text fault, examplesOfText text = .error fault → d.addExamplesOfText text = .error fault) ∧
    (∀ text text' table table', examplesOfText text = .ok table →
      examplesOfText text' = .ok table' → (∀ name ∈ table.names, name ∉ table'.names) →
      ∃ merged merged', [text, text'].foldlM addExamplesOfText d = .ok merged ∧
        [text', text].foldlM addExamplesOfText d = .ok merged' ∧
        ∀ operation, merged.examplesFor operation = merged'.examplesFor operation) := by
  refine ⟨fun tables h => ⟨_, foldlM_addExamplesOfText h d, gains_extend d tables⟩,
    fun fault => foldlM_addExamplesOfText_eq_error_iff d,
    fun text fault h => addExamplesOfText_of_error h d, ?_⟩
  intro text text' table table' h h' happart
  have hread : [text, text'].map examplesOfText = [table, table'].map .ok := by simp [h, h']
  have hread' : [text', text].map examplesOfText = [table', table].map .ok := by simp [h, h']
  exact ⟨_, _, foldlM_addExamplesOfText hread d, foldlM_addExamplesOfText hread' d,
    (gains_extend d _).examplesFor_eq_swap happart (gains_extend d _)⟩

/-- A service for tasks with an example for putting one. -/
def tidyDescription : Description :=
  { Description.ofMetadata (.ofRequired .json "tasks" "1") with
    examples := NameTable.empty.put "PutTask" [⟨"Tidy", "", none, none⟩] }

/-- An empty list, and two examples for putting a task. -/
def washText : String :=
  "\x7b\"examples\":\x7b\"ListTasks\":[],
    \"PutTask\":[\x7b\"title\":\"Wash\"\x7d,\x7b\"title\":\"Dry\"\x7d]\x7d\x7d"

/-- An example whose title is a number. -/
def numberedText : String :=
  "\x7b\"examples\":\x7b\"PutTask\":[\x7b\"title\":5\x7d]\x7d\x7d"

/-- An example for dropping a task. -/
def restText : String :=
  "\x7b\"examples\":\x7b\"DropTask\":[\x7b\"title\":\"Rest\"\x7d]\x7d\x7d"

/-- The titles in a table of examples. -/
def titles (t : NameTable (List Example)) : NameTable (List String) :=
  t.mapItems fun _ examples => examples.map Example.title

private theorem listUnder_titles (t : NameTable (List Example)) (name : String) :
    (titles t).listUnder name = (t.listUnder name).map Example.title := by
  rw [NameTable.listUnder, titles, NameTable.find?_mapItems, NameTable.listUnder]
  cases t.find? name <;> rfl

private theorem exists_of_titles {text : String} {entries : List (String × List String)}
    (h : (examplesOfText text).toOption.map (fun t => (titles t).entries) = some entries) :
    ∃ t, examplesOfText text = .ok t ∧ t.names = entries.map Prod.fst ∧
      ∀ name, (t.listUnder name).map Example.title = (entries.lookup name).getD [] := by
  cases hread : examplesOfText text with
  | error fault =>
    rw [hread] at h
    cases h
  | ok t =>
    rw [hread] at h
    cases h
    exact ⟨t, rfl, by simp [titles, NameTable.mapItems, NameTable.names],
      fun name => (listUnder_titles t name).symm⟩

-- the kernel is slow to take texts apart, so their characters are put in their places
private theorem exists_wash : ∃ wash, examplesOfText washText = .ok wash ∧
    wash.names = ["ListTasks", "PutTask"] ∧ ∀ name, (wash.listUnder name).map Example.title =
      ([("ListTasks", []), ("PutTask", ["Wash", "Dry"])].lookup name).getD [] := by
  have hread : (examplesOfText washText).toOption.map (fun t => (titles t).entries) =
      some [("ListTasks", []), ("PutTask", ["Wash", "Dry"])] := by
    rw [examplesOfText, symbolsOfText, show washText.toList = _ from String.toList_ofList]
    decide +kernel
  exact exists_of_titles hread

private theorem exists_rest : ∃ rest, examplesOfText restText = .ok rest ∧
    rest.names = ["DropTask"] ∧ ∀ name, (rest.listUnder name).map Example.title =
      ([("DropTask", ["Rest"])].lookup name).getD [] := by
  have hread : (examplesOfText restText).toOption.map (fun t => (titles t).entries) =
      some [("DropTask", ["Rest"])] := by
    rw [examplesOfText, symbolsOfText, show restText.toList = _ from String.toList_ofList]
    decide +kernel
  exact exists_of_titles hread

private theorem exists_numbered_fault :
    ∃ fault, examplesOfText numberedText = .error fault := by
  have hread : (examplesOfText numberedText).isOk = false := by
    rw [examplesOfText, symbolsOfText, show numberedText.toList = _ from String.toList_ofList]
    decide +kernel
  cases hnumbered : examplesOfText numberedText with
  | error fault => exact ⟨fault, rfl⟩
  | ok t =>
    rw [hnumbered] at hread
    cases hread

/-- Two documents are merged, one of them twice; a third would be refused behind them. -/
theorem tidy_wash_rest_merged :
    (∃ merged, [washText, restText, washText].foldlM addExamplesOfText tidyDescription =
        .ok merged ∧
      merged.examples.names = ["PutTask", "ListTasks", "DropTask"] ∧
      (merged.examplesFor "PutTask").map Example.title =
        ["Tidy", "Wash", "Dry", "Wash", "Dry"]) ∧
    (∃ fault, [washText, numberedText, restText].foldlM addExamplesOfText tidyDescription =
      .error fault) ∧
    ∃ merged merged', [washText, restText].foldlM addExamplesOfText tidyDescription = .ok merged ∧
      [restText, washText].foldlM addExamplesOfText tidyDescription = .ok merged' ∧
      ∀ operation, merged.examplesFor operation = merged'.examplesFor operation := by
  obtain ⟨wash, hwash, hwashNames, hwashTitles⟩ := exists_wash
  obtain ⟨rest, hrest, hrestNames, hrestTitles⟩ := exists_rest
  obtain ⟨fault, hfault⟩ := exists_numbered_fault
  obtain ⟨hmerged, -, -, hpair⟩ :=
    merged_examples_follow_in_order tidyDescription [washText, restText, washText]
  obtain ⟨-, hrefused, -, -⟩ :=
    merged_examples_follow_in_order tidyDescription [washText, numberedText, restText]
  obtain ⟨merged, hfold, hgains⟩ := hmerged [wash, rest, wash] (by simp [hwash, hrest])
  refine ⟨⟨merged, hfold, ?_, ?_⟩, ⟨fault, (hrefused fault).mpr
    ⟨[washText], numberedText, [restText], rfl, by simp [hwash], hfault⟩⟩,
    hpair _ _ _ _ hwash hrest (by simp [hwashNames, hrestNames])⟩
  · rw [hgains.names]
    simp only [List.flatMap_cons, hwashNames, hrestNames]
    decide
  · rw [hgains.examples]
    simp only [List.flatMap_cons, List.map_append, hwashTitles, hrestTitles]
    decide

/-- The examples that were merged before a document is refused are not held afterwards: merging has
no result besides the fault. -/
theorem refused_document_leaves_no_examples :
    ∃ held fault, [washText].foldlM addExamplesOfText tidyDescription = .ok held ∧
      (held.examplesFor "PutTask").map Example.title = ["Tidy", "Wash", "Dry"] ∧
      held.addExamplesOfText numberedText = .error fault ∧
      ∀ after : Description,
        [washText, numberedText].foldlM addExamplesOfText tidyDescription ≠ .ok after := by
  obtain ⟨wash, hwash, -, hwashTitles⟩ := exists_wash
  obtain ⟨fault, hfault⟩ := exists_numbered_fault
  have hread : [washText].map examplesOfText = [wash].map .ok := by simp [hwash]
  have hrefused : [washText, numberedText].foldlM addExamplesOfText tidyDescription =
      .error fault :=
    (foldlM_addExamplesOfText_eq_error_iff tidyDescription).mpr
      ⟨[washText], numberedText, [], rfl, by simp [hwash], hfault⟩
  refine ⟨_, fault, foldlM_addExamplesOfText hread tidyDescription, ?_,
    addExamplesOfText_of_error hfault _, fun after h => ?_⟩
  · rw [(gains_extend tidyDescription [wash]).examples]
    simp only [List.flatMap_cons, List.map_append, hwashTitles]
    decide
  · rw [hrefused] at h
    cases h

end Description

end ApiBindings.Service
