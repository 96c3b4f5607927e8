import ApiBindings.Bindings.Bundle
import ApiBindings.Proofs.Descent

/-!
# Descriptions that look alike

A generation reads no more of a description than this: the metadata; of every operation its key,
request, shape names and examples; of the shapes that its input leads to and of its result what is
shown of them; of every piece of documentation the text that is embedded. Two descriptions that
look alike in this, each through a formatter of its own, have the same generation.
-/

namespace ApiBindings.Bindings

open Service

variable {d d' : Description} {docs docs' : Formatter} {moduleName : String}

/-! ### Shapes -/

/-- Members of two structures that are shown alike. -/
structure MembersAlike (docs docs' : Formatter) (s s' : Structure)
    (member member' : String × Member) : Prop where
  name : member.1 = member'.1
  shape : member.2.shape = member'.2.shape
  locationName : member.2.locationName = member'.2.locationName
  required : s.isRequired member.1 = s'.isRequired member'.1
  documentation :
    docs.embedded? member.2.documentation = docs'.embedded? member'.2.documentation

/-- Structures whose members are shown alike, one by one. -/
structure StructuresAlike (docs docs' : Formatter) (s s' : Structure) : Prop where
  members : List.Forall₂ (MembersAlike docs docs' s s') s.members.entries s'.members.entries
  documentation : docs.embedded? s.documentation = docs'.embedded? s'.documentation

/-- Shapes that are shown alike, as far as can be told without following their references. -/
inductive ShapesAlike (docs docs' : Formatter) : Shape → Shape → Prop
  | struct {s s' : Structure} (h : StructuresAlike docs docs' s s') :
      ShapesAlike docs docs' (.struct s) (.struct s')
  | list {element element' : Member} (h : element.shape = element'.shape) :
      ShapesAlike docs docs' (.list element) (.list element')
  | flat {shape : Shape} (h : shape.structure? = none) : ShapesAlike docs docs' shape shape

/-- The shapes under a name are both missing or shown alike. -/
def LookupsAlike (d : Description) (docs : Formatter) (d' : Description) (docs' : Formatter)
    (name : String) : Prop :=
  Option.Rel (ShapesAlike docs docs') (d.shapes.find? name) (d'.shapes.find? name)

/-- Wherever references lead to from a name, the shapes are both missing or shown alike. -/
def BelowAlike (d : Description) (docs : Formatter) (d' : Description) (docs' : Formatter)
    (name : String) : Prop :=
  ∀ x, Relation.ReflTransGen d.Refers name x → LookupsAlike d docs d' docs' x

/-- A structure is shown like itself. -/
theorem StructuresAlike.refl (docs : Formatter) (s : Structure) :
    StructuresAlike docs docs s s :=
  ⟨List.forall₂_same.mpr fun _ _ => ⟨rfl, rfl, rfl, rfl, rfl⟩, rfl⟩

/-- A shape is shown like itself. -/
theorem ShapesAlike.refl (docs : Formatter) (shape : Shape) : ShapesAlike docs docs shape shape := by
  cases shape with
  | struct s => exact .struct (.refl docs s)
  | _ => exact .flat rfl

/-- What is found under a name is shown alike if it is the same. -/
theorem LookupsAlike.of_eq {name : String} (h : d.shapes.find? name = d'.shapes.find? name) :
    LookupsAlike d docs d' docs name := by
  rw [LookupsAlike, h]
  cases d'.shapes.find? name with
  | none => exact .none
  | some shape => exact .some (.refl docs shape)

/-- What one description does not declare, the other one does not. -/
theorem LookupsAlike.find?_eq_none {name : String} (h : LookupsAlike d docs d' docs' name)
    (hfound : d.shapes.find? name = none) : d'.shapes.find? name = none := by
  rw [LookupsAlike, hfound] at h
  generalize d'.shapes.find? name = found' at h
  cases h
  rfl

private theorem LookupsAlike.exists_find?_eq_some {name : String} {shape : Shape}
    (h : LookupsAlike d docs d' docs' name) (hfound : d.shapes.find? name = some shape) :
    ∃ shape', d'.shapes.find? name = some shape' ∧ ShapesAlike docs docs' shape shape' := by
  rw [LookupsAlike, hfound] at h
  generalize d'.shapes.find? name = found' at h
  cases h with
  | some halike => exact ⟨_, rfl, halike⟩

/-- References start at the name itself. -/
theorem BelowAlike.self {name : String} (h : BelowAlike d docs d' docs' name) :
    LookupsAlike d docs d' docs' name :=
  h name .refl

/-- What is below a reference is below the name too. -/
theorem BelowAlike.next {name next : String} (h : BelowAlike d docs d' docs' name)
    (hstep : d.Refers name next) : BelowAlike d docs d' docs' next :=
  fun x hx => h x (.head hstep hx)

private theorem MembersAlike.displayName_eq {s s' : Structure} {member member' : String × Member}
    (h : MembersAlike docs docs' s s' member member') (m : Metadata) :
    displayName m member.1 member.2 = displayName m member'.1 member'.2 := by
  rw [displayName, displayName, h.name, h.locationName]

private theorem ShapesAlike.kind_eq {shape shape' : Shape}
    (h : ShapesAlike docs docs' shape shape') : shape.kind = shape'.kind := by
  cases h <;> rfl

private theorem ShapesAlike.documentation_eq {shape shape' : Shape}
    (h : ShapesAlike docs docs' shape shape') :
    (shape.structure?.bind fun s => docs.embedded? s.documentation) =
      shape'.structure?.bind fun s => docs'.embedded? s.documentation := by
  cases h with
  | struct h => exact h.documentation
  | list => simp [Shape.structure?]
  | flat h => simp [h]

/-- Shapes that are shown alike expand alike if their references do. -/
theorem ShapesAlike.expandShape_eq {shape shape' : Shape} {m : Metadata}
    {recur recur' : String → Report Expansion} (h : ShapesAlike docs docs' shape shape')
    (hrecur : ∀ next ∈ shape.references, recur next = recur' next) :
    expandShape m recur shape = expandShape m recur' shape' := by
  cases h with
  | @struct s s' h =>
    rw [expandShape, expandShape]
    congr 1
    apply Report.each_congr
    have hreferences : ∀ member ∈ s.members.entries,
        recur member.2.shape = recur' member.2.shape :=
      fun member hmember => hrecur _ (List.mem_map_of_mem hmember)
    apply ((List.forall₂_and_left _ _).mpr ⟨hreferences, h.members⟩).imp
    rintro member member' ⟨hnext, hmember⟩
    rw [hnext, hmember.shape, hmember.displayName_eq m, hmember.required]
  | list h =>
    rw [expandShape, expandShape, hrecur _ (by simp [Shape.references]), h]
  | @flat shape hflat =>
    cases shape with
    | struct => cases hflat
    | list => rw [expandShape, expandShape, hrecur _ (by simp [Shape.references])]
    | _ => rfl

/-! ### Expansions -/

/-- A name expands alike in two descriptions if everything that references lead to from there is
shown alike. The chains of both expansions grow by the same names. -/
theorem expand_congr {chain : List String} {name : String} (hmetadata : d.metadata = d'.metadata)
    (hbelow : BelowAlike d docs d' docs' name) : expand d chain name = expand d' chain name := by
  induction chain, name using descent_induction (d := d) with
  | undeclared chain name hfound =>
    rw [expand_undeclared hfound, expand_undeclared (hbelow.self.find?_eq_none hfound)]
  | recurring chain name shape hfound hmem =>
    obtain ⟨shape', hfound', halike⟩ := hbelow.self.exists_find?_eq_some hfound
    rw [expand_recurring hfound hmem, expand_recurring hfound' hmem, halike.kind_eq]
  | new chain name shape hfound hnew ih =>
    obtain ⟨shape', hfound', halike⟩ := hbelow.self.exists_find?_eq_some hfound
    rw [expand_new hfound hnew, expand_new hfound' hnew, hmetadata]
    apply halike.expandShape_eq
    intro next hnext
    exact ih next hnext (hbelow.next (Description.refers_of_mem hfound hnext))

/-! ### Arguments -/

private theorem argumentsOf_congr {chain : List String} {s s' : Structure}
    (hmetadata : d.metadata = d'.metadata) (halike : StructuresAlike docs docs' s s')
    (hexpand : ∀ member ∈ s.members.entries,
      expand d chain member.2.shape = expand d' chain member.2.shape) :
    argumentsOf d docs chain s = argumentsOf d' docs' chain s' := by
  rw [argumentsOf, argumentsOf]
  apply Report.each_congr
  apply ((List.forall₂_and_left _ _).mpr ⟨hexpand, halike.members⟩).imp
  rintro member member' ⟨hvalue, hmember⟩
  rw [hvalue, hmember.shape, hmetadata, hmember.displayName_eq, hmember.required,
    hmember.documentation]

/-- An input below which everything is shown alike has one argument block. -/
theorem argumentBlock_congr {chain : List String} {name : String}
    (hmetadata : d.metadata = d'.metadata) (hbelow : BelowAlike d docs d' docs' name) :
    argumentBlock d docs chain name = argumentBlock d' docs' chain name := by
  rw [argumentBlock, argumentBlock]
  cases hfound : d.shapes.find? name with
  | none => rw [hbelow.self.find?_eq_none hfound]
  | some shape =>
    obtain ⟨shape', hfound', halike⟩ := hbelow.self.exists_find?_eq_some hfound
    rw [hfound']
    simp only [halike.kind_eq]
    congr 1
    cases halike with
    | struct hstruct =>
      simp only
      congr 1
      apply argumentsOf_congr hmetadata hstruct
      intro member hmember
      have hstep : d.Refers name member.2.shape :=
        Description.refers_of_mem hfound (List.mem_map_of_mem hmember)
      exact expand_congr hmetadata (hbelow.next hstep)
    | list => rfl
    | flat hflat =>
      cases shape with
      | struct => cases hflat
      | _ => rfl

/-! ### Signatures -/

/-- The names that the members of a structure are shown under, with a mark for those that are
required. -/
def shownNames (m : Metadata) (s : Structure) : List (String × Bool) :=
  s.members.entries.map fun member => (displayName m member.1 member.2, s.isRequired member.1)

/-- The keyword arguments of a structure can be told from the shown names. -/
theorem keywordArguments_eq (m : Metadata) (s : Structure) :
    keywordArguments m s =
      ((shownNames m s).filter (·.2)).map (·.1 ++ "=") ++
        if ((shownNames m s).filter (!·.2)).isEmpty then [] else [optionalArguments] := by
  simp only [keywordArguments, shownNames, Structure.partitionMembers,
    List.partition_eq_filter_filter, List.filter_map, List.map_map, List.isEmpty_map]
  rfl

private theorem StructuresAlike.shownNames_eq {s s' : Structure}
    (h : StructuresAlike docs docs' s s') (m : Metadata) : shownNames m s = shownNames m s' := by
  have hnames : List.Forall₂ (· = ·) (shownNames m s) (shownNames m s') := by
    rw [shownNames, shownNames, List.forall₂_map_left_iff, List.forall₂_map_right_iff]
    apply h.members.imp
    intro member member' hmember
    rw [hmember.displayName_eq, hmember.required]
  rwa [List.forall₂_eq_eq_eq] at hnames

private theorem argumentList_congr {op op' : Operation} (hmetadata : d.metadata = d'.metadata)
    (hinput : op.input = op'.input)
    (halike : ∀ name, op.input = some name → LookupsAlike d docs d' docs' name) :
    argumentList d op = argumentList d' op' := by
  rw [argumentList, argumentList, ← hinput]
  cases hname : op.input with
  | none => rfl
  | some name =>
    cases hfound : d.shapes.find? name with
    | none => simp only [hfound, (halike name hname).find?_eq_none hfound]
    | some shape =>
      obtain ⟨shape', hfound', hshape⟩ := (halike name hname).exists_find?_eq_some hfound
      simp only [hfound, hfound']
      cases hshape with
      | struct h =>
        simp only
        rw [keywordArguments_eq, keywordArguments_eq, h.shownNames_eq, hmetadata]
      | list => rfl
      | flat hflat =>
        cases shape with
        | struct => cases hflat
        | _ => rfl

/-! ### Operations -/

/-- Operations with their keys that look alike. Their names do not matter, nor do the shapes of
their errors. -/
structure OperationsAlike (d : Description) (docs : Formatter) (d' : Description)
    (docs' : Formatter) (entry entry' : String × Operation) : Prop where
  key : entry.1 = entry'.1
  http : entry.2.http = entry'.2.http
  input : entry.2.input = entry'.2.input
  output : entry.2.output = entry'.2.output
  errors : entry.2.errors = entry'.2.errors
  documentation :
    docs.embedded? entry.2.documentation = docs'.embedded? entry'.2.documentation
  below : ∀ name, entry.2.input = some name → BelowAlike d docs d' docs' name
  result : ∀ name, entry.2.output = some name → LookupsAlike d docs d' docs' name
  examples : d.examplesFor entry.1 = d'.examplesFor entry'.1

private theorem resultSections_congr {op op' : Operation} (houtput : op.output = op'.output)
    (halike : ∀ name, op.output = some name → LookupsAlike d docs d' docs' name) :
    resultSections d docs op = resultSections d' docs' op' := by
  rw [resultSections, resultSections, ← houtput]
  cases hname : op.output with
  | none => rfl
  | some name =>
    have hdocumentation : ((d.shapes.find? name).bind fun shape =>
        shape.structure?.bind fun s => docs.embedded? s.documentation) =
        (d'.shapes.find? name).bind fun shape =>
          shape.structure?.bind fun s => docs'.embedded? s.documentation := by
      cases hfound : d.shapes.find? name with
      | none =>
        simp only [(halike name hname).find?_eq_none hfound, Option.bind_none]
      | some shape =>
        obtain ⟨shape', hfound', hshape⟩ := (halike name hname).exists_find?_eq_some hfound
        rw [hfound']
        exact hshape.documentation_eq
    simp only [Option.bind_eq_bind, hdocumentation]

namespace OperationsAlike

variable {entry entry' : String × Operation}

/-- The literals that a call passes on are taken from the request and the key. -/
theorem passedLiterals_eq (h : OperationsAlike d docs d' docs' entry entry')
    (hmetadata : d.metadata = d'.metadata) :
    passedLiterals d entry.1 entry.2 = passedLiterals d' entry'.1 entry'.2 := by
  have hvalue : passedValue? entry.1 entry.2 = passedValue? entry'.1 entry'.2 := by
    funext name
    rw [passedValue?.eq_def, passedValue?.eq_def, h.key, h.http]
  rw [passedLiterals, passedLiterals, hmetadata, hvalue]

private theorem signatures_eq (h : OperationsAlike d docs d' docs' entry entry')
    (hmetadata : d.metadata = d'.metadata) :
    signatures d entry.1 entry.2 = signatures d' entry'.1 entry'.2 := by
  have harguments : argumentList d entry.2 = argumentList d' entry'.2 :=
    argumentList_congr hmetadata h.input fun name hname => (h.below name hname).self
  rw [signatures, signatures, harguments, h.passedLiterals_eq hmetadata, h.key, hmetadata]

private theorem argumentSections_eq (h : OperationsAlike d docs d' docs' entry entry')
    (hmetadata : d.metadata = d'.metadata) :
    argumentSections d docs entry.2 = argumentSections d' docs' entry'.2 := by
  rw [argumentSections, argumentSections, ← h.input]
  cases hname : entry.2.input with
  | none => rfl
  | some name => simp only [argumentBlock_congr hmetadata (h.below name hname)]

/-- Operations that look alike have one documentation. -/
theorem operationDocumentation_eq (h : OperationsAlike d docs d' docs' entry entry')
    (hmetadata : d.metadata = d'.metadata) (s : Signatures) :
    operationDocumentation d docs moduleName entry.1 entry.2 s =
      operationDocumentation d' docs' moduleName entry'.1 entry'.2 s := by
  have herrors : errorSections entry.2 = errorSections entry'.2 := by
    rw [errorSections, errorSections, h.errors]
  have hreferences : referenceSections d entry.1 = referenceSections d' entry'.1 := by
    rw [referenceSections, referenceSections, hmetadata, h.key]
  have husage : usageSection d moduleName entry.1 s = usageSection d' moduleName entry'.1 s := by
    unfold usageSection
    rw [hmetadata, h.key]
  rw [operationDocumentation, operationDocumentation, h.argumentSections_eq hmetadata,
    h.documentation, resultSections_congr h.output h.result, herrors, hreferences, husage,
    h.examples, h.key]

/-- Operations that look alike have one binding. -/
theorem operationBinding_eq (h : OperationsAlike d docs d' docs' entry entry')
    (hmetadata : d.metadata = d'.metadata) :
    operationBinding d docs moduleName entry.1 entry.2 =
      operationBinding d' docs' moduleName entry'.1 entry'.2 := by
  have hthrough : CallThrough.ofOperation d entry.1 entry.2 =
      CallThrough.ofOperation d' entry'.1 entry'.2 := by
    rw [CallThrough.ofOperation, CallThrough.ofOperation, h.passedLiterals_eq hmetadata,
      hmetadata, h.key]
  have hdocumentation : operationDocumentation d docs moduleName entry.1 entry.2 =
      operationDocumentation d' docs' moduleName entry'.1 entry'.2 :=
    funext fun s => h.operationDocumentation_eq hmetadata s
  rw [operationBinding, operationBinding, h.signatures_eq hmetadata, hdocumentation, hthrough,
    h.http, hmetadata, h.key]

end OperationsAlike

/-! ### Generations -/

/-- Descriptions that look alike. -/
structure DescriptionsAlike (d : Description) (docs : Formatter) (d' : Description)
    (docs' : Formatter) : Prop where
  metadata : d.metadata = d'.metadata
  documentation : docs.embedded? d.documentation = docs'.embedded? d'.documentation
  operations : List.Forall₂ (OperationsAlike d docs d' docs') d.operations.entries
    d'.operations.entries

/-- Descriptions that look alike have one generation: what happens on the way and the outcome are
the same. -/
theorem generate_congr (h : DescriptionsAlike d docs d' docs') (chosen : Option String) :
    generate d docs chosen = generate d' docs' chosen := by
  have hbindings : ∀ moduleName, Report.each (fun entry : String × Operation =>
      operationBinding d docs moduleName entry.1 entry.2) d.operations.entries =
      Report.each (fun entry : String × Operation =>
        operationBinding d' docs' moduleName entry.1 entry.2) d'.operations.entries :=
    fun _ => Report.each_congr (h.operations.imp fun _ _ halike =>
      halike.operationBinding_eq h.metadata)
  have hmodule : moduleText d docs = moduleText d' docs' := by
    funext moduleName bindings
    rw [moduleText, moduleText, moduleOpening, moduleOpening, h.metadata, h.documentation]
  rw [generate, generate, h.metadata, hmodule]
  simp only [hbindings]

end ApiBindings.Bindings
