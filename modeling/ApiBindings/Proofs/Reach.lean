import ApiBindings.Proofs.Alike

/-!
# What a generation depends on

Of the shapes of a service only those count that references lead to from the input of an operation,
and those that operations return. Two descriptions that agree on them may order and fill the rest
as they like. The walk through one of them never leaves what both agree on, so the two expansions
go in step although each has a graph of its own.
-/

namespace ApiBindings.Bindings

open Service

variable {d d' : Description}

/-- Agreement of two descriptions on their operations, up to the names in them, and on what these
lead to. All else may differ: the order of the shapes, those that no input leads to, those of
errors, and the examples of other operations. -/
structure AgreesWhereReached (d d' : Description) : Prop where
  metadata : d.metadata = d'.metadata
  documentation : d.documentation = d'.documentation
  operations : List.Forall₂ (fun entry entry' =>
      entry.1 = entry'.1 ∧ { entry.2 with name := entry'.2.name } = entry'.2)
    d.operations.entries d'.operations.entries
  inputs : ∀ entry ∈ d.operations.entries, ∀ name, entry.2.input = some name →
    ∀ x, Relation.ReflTransGen d.Refers name x → d.shapes.find? x = d'.shapes.find? x
  outputs : ∀ entry ∈ d.operations.entries, ∀ name, entry.2.output = some name →
    d.shapes.find? name = d'.shapes.find? name
  examples : ∀ entry ∈ d.operations.entries, d.examplesFor entry.1 = d'.examplesFor entry.1

/-- Descriptions that agree where they are read look alike through any formatter. -/
theorem AgreesWhereReached.descriptionsAlike (h : AgreesWhereReached d d') (docs : Formatter) :
    DescriptionsAlike d docs d' docs where
  metadata := h.metadata
  documentation := by rw [h.documentation]
  operations := by
    have hread : ∀ entry ∈ d.operations.entries,
        (∀ name, entry.2.input = some name → BelowAlike d docs d' docs name) ∧
        (∀ name, entry.2.output = some name → LookupsAlike d docs d' docs name) ∧
        d.examplesFor entry.1 = d'.examplesFor entry.1 :=
      fun entry hentry =>
        ⟨fun name hname x hx => .of_eq (h.inputs entry hentry name hname x hx),
          fun name hname => .of_eq (h.outputs entry hentry name hname), h.examples entry hentry⟩
    apply ((List.forall₂_and_left _ _).mpr ⟨hread, h.operations⟩).imp
    rintro entry entry' ⟨⟨hbelow, hresult, hexamples⟩, hkey, hop⟩
    obtain ⟨key', name', http', input', output', errors', documentation'⟩ := entry'
    cases hkey
    cases hop
    exact ⟨rfl, rfl, rfl, rfl, rfl, rfl, hbelow, hresult, hexamples⟩

/-- A generation depends on nothing else than what its operations lead to: descriptions that agree
there have the same events and the same outcome, be it files or a failure. -/
theorem generate_eq_of_agreesWhereReached (h : AgreesWhereReached d d') (docs : Formatter)
    (chosen : Option String) : generate d docs chosen = generate d' docs chosen :=
  generate_congr (h.descriptionsAlike docs) chosen

/-- An operation whose input leads to a shape inside itself. -/
def getTree : Operation :=
  ⟨"GetTree", .postRoot, some "GetTreeInput", some "Tree", ["Missing"], none⟩

/-- An input, and trees that are lists of trees. -/
def treeDescription : Description where
  metadata := .ofRequired .json "trees" "2024-01-01"
  documentation := none
  operations := NameTable.empty.put "GetTree" getTree
  shapes :=
    (((NameTable.empty.put "GetTreeInput"
      (.struct ⟨NameTable.empty.put "Root" (.ofShape "Tree"), ["Root"], none⟩)).put "Tree"
      (.struct ⟨NameTable.empty.put "Children" (.ofShape "Trees"), [], some "A tree."⟩)).put
        "Trees" (.list (.ofShape "Tree"))).put "Missing" (.string [])
  examples := NameTable.empty.put "GetTree" [⟨"A leaf", "", none, none⟩]

/-- The same trees in another order among shapes that nothing leads to, one of them with a loose
end, beside examples of no operation. -/
def overgrownDescription : Description where
  metadata := .ofRequired .json "trees" "2024-01-01"
  documentation := none
  operations := NameTable.empty.put "GetTree" { getTree with name := "Tree.Get" }
  shapes :=
    ((((NameTable.empty.put "Trees" (.list (.ofShape "Tree"))).put "Missing" .boolean).put "Ivy"
      (.struct ⟨NameTable.empty.put "Host" (.ofShape "Wall"), [], none⟩)).put "Tree"
      (.struct ⟨NameTable.empty.put "Children" (.ofShape "Trees"), [], some "A tree."⟩)).put
        "GetTreeInput"
        (.struct ⟨NameTable.empty.put "Root" (.ofShape "Tree"), ["Root"], none⟩)
  examples :=
    (NameTable.empty.put "Prune" [⟨"A twig", "", none, none⟩]).put "GetTree"
      [⟨"A leaf", "", none, none⟩]

/-- What has grown over the trees does not show. -/
theorem generate_overgrown :
    AgreesWhereReached treeDescription overgrownDescription ∧
      ¬ overgrownDescription.Declares "Wall" ∧
      (∃ bundle, (generate treeDescription id none).outcome = .ok bundle) ∧
      generate treeDescription id none = generate overgrownDescription id none := by
  have hclosed : ∀ x ∈ ["GetTreeInput", "Tree", "Trees"],
      ∀ y ∈ treeDescription.referencesOf x, y ∈ ["GetTreeInput", "Tree", "Trees"] := by
    decide +kernel
  have hsame : ∀ x ∈ ["GetTreeInput", "Tree", "Trees"],
      treeDescription.shapes.find? x = overgrownDescription.shapes.find? x :=
    List.map_inj_left.mp rfl
  have hagrees : AgreesWhereReached treeDescription overgrownDescription := by
    refine ⟨rfl, rfl, .cons ⟨rfl, rfl⟩ .nil, ?_, ?_, ?_⟩
    · intro entry hentry name hname x hx
      obtain rfl := List.mem_singleton.mp hentry
      cases hname
      exact hsame x (Description.mem_of_reflTransGen hclosed (by simp) hx)
    · intro entry hentry name hname
      obtain rfl := List.mem_singleton.mp hentry
      cases hname
      rfl
    · intro entry hentry
      obtain rfl := List.mem_singleton.mp hentry
      rfl
  exact ⟨hagrees, by decide +kernel, ⟨_, by with_unfolding_all rfl⟩,
    generate_eq_of_agreesWhereReached hagrees id none⟩

end ApiBindings.Bindings
