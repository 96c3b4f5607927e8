import ApiBindings.Proofs.Argument
import ApiBindings.Proofs.Bundle

/-!
# Documentation formatted beforehand

A formatter sees every piece of documentation that is embedded once, and sees nothing else. So it
makes no difference whether documentation is formatted while text is generated or in the
description, and a formatter made of two may do its first part in the description. What it makes of
a piece of documentation stands in the text that is generated.
-/

namespace ApiBindings.Service

/-- Changes the documentation of a member. -/
def Member.mapDocumentation (f : String → String) (member : Member) : Member :=
  { member with documentation := member.documentation.map f }

/-- Changes the documentation of a structure and of its members. -/
def Structure.mapDocumentation (f : String → String) (s : Structure) : Structure where
  members := s.members.mapItems fun _ member => member.mapDocumentation f
  required := s.required
  documentation := s.documentation.map f

/-- Changes the documentation in a shape. -/
def Shape.mapDocumentation (f : String → String) : Shape → Shape
  | struct s => struct (s.mapDocumentation f)
  | list element => list (element.mapDocumentation f)
  | shape => shape

/-- Changes the documentation of an operation. -/
def Operation.mapDocumentation (f : String → String) (op : Operation) : Operation :=
  { op with documentation := op.documentation.map f }

/-- Changes every documentation in a description: that of the service, of its operations, of its
structures and of their members. -/
def Description.mapDocumentation (f : String → String) (d : Description) : Description :=
  { d with
    documentation := d.documentation.map f
    operations := d.operations.mapItems fun _ op => op.mapDocumentation f
    shapes := d.shapes.mapItems fun _ shape => shape.mapDocumentation f }

end ApiBindings.Service

namespace ApiBindings.Bindings

open Service

private theorem Formatter.embedded?_comp (f g : Formatter) (markup : Option String) :
    Formatter.embedded? (g ∘ f) markup = g.embedded? (markup.map f) := by
  rw [embedded?, embedded?, Option.map_map]
  rfl

private theorem structuresAlike_mapDocumentation (f g : Formatter) (s : Structure) :
    StructuresAlike (g ∘ f) g s (s.mapDocumentation f) where
  members := by
    rw [Structure.mapDocumentation, NameTable.mapItems, List.forall₂_map_right_iff]
    apply List.forall₂_same.mpr
    intro member _
    exact ⟨rfl, rfl, rfl, rfl, Formatter.embedded?_comp f g _⟩
  documentation := Formatter.embedded?_comp f g _

private theorem shapesAlike_mapDocumentation (f g : Formatter) (shape : Shape) :
    ShapesAlike (g ∘ f) g shape (shape.mapDocumentation f) := by
  cases shape with
  | struct s => exact .struct (structuresAlike_mapDocumentation f g s)
  | list element => exact .list rfl
  | _ => exact .flat rfl

private theorem lookupsAlike_mapDocumentation (f g : Formatter) (d : Description) (name : String) :
    LookupsAlike d (g ∘ f) (d.mapDocumentation f) g name := by
  have hfound : (d.mapDocumentation f).shapes.find? name =
      (d.shapes.find? name).map (Shape.mapDocumentation f) :=
    NameTable.find?_mapItems _ _ _
  rw [LookupsAlike, hfound]
  cases d.shapes.find? name with
  | none => exact .none
  | some shape => exact .some (shapesAlike_mapDocumentation f g shape)

/-- A description with changed documentation looks as the formatter would have made it look. -/
theorem descriptionsAlike_mapDocumentation (f g : Formatter) (d : Description) :
    DescriptionsAlike d (g ∘ f) (d.mapDocumentation f) g where
  metadata := rfl
  documentation := Formatter.embedded?_comp f g _
  operations := by
    rw [Description.mapDocumentation, NameTable.mapItems, List.forall₂_map_right_iff]
    apply List.forall₂_same.mpr
    intro entry _
    exact ⟨rfl, rfl, rfl, rfl, rfl, Formatter.embedded?_comp f g _,
      fun _ _ x _ => lookupsAlike_mapDocumentation f g d x,
      fun name _ => lookupsAlike_mapDocumentation f g d name, rfl⟩

/-- The first of two formatters may be applied to the description. -/
theorem generate_comp (f g : Formatter) (d : Description) (chosen : Option String) :
    generate d (g ∘ f) chosen = generate (d.mapDocumentation f) g chosen :=
  generate_congr (descriptionsAlike_mapDocumentation f g d) chosen

/-! ### Where formatted documentation stands -/

variable {d : Description} {f : Formatter} {moduleName key : String} {op : Operation}

/-- The documentation of an operation shows what a formatter makes of the markup that comes into it:
that of the operation under its title, that of the result's structure under the result's name, and
that of a member of the input under the heading with its name. Markup of which nothing is left is
not shown. -/
structure ShowsMarkup (d : Description) (f : Formatter) (key : String) (op : Operation)
    (documentation : String) : Prop where
  operation : ∀ markup, op.documentation = some markup → Text.trim (f markup) ≠ "" →
    ∃ front back, documentation =
      front ++ ("# " ++ key ++ " Operation" ++ "\n\n" ++ Text.trim (f markup)) ++ back
  result : ∀ name s markup, op.output = some name → d.shapes.find? name = some (.struct s) →
    s.documentation = some markup → Text.trim (f markup) ≠ "" →
    ∃ front back, documentation =
      front ++ ("# Returns\n\n\x60" ++ name ++ "\x60" ++ "\n\n" ++ Text.trim (f markup)) ++ back
  member : ∀ name s member markup, op.input = some name →
    d.shapes.find? name = some (.struct s) → member ∈ s.members.entries →
    member.2.documentation = some markup → Text.trim (f markup) ≠ "" →
    ∃ front shown back, documentation =
      front ++ ("## \x60" ++ displayName d.metadata member.1 member.2 ++ " = " ++ shown ++ "\n" ++
        Text.trim (f markup)) ++ back

private theorem embedded?_some {markup : String} (h : Text.trim (f markup) ≠ "") :
    f.embedded? (some markup) = some (Text.trim (f markup)) := by
  simp [Formatter.embedded?, h]

private theorem exists_text_eq_of_documentation {a : Argument} {text : String}
    (h : a.documentation = some text) :
    ∃ shown back, a.text = ("## \x60" ++ a.name ++ " = " ++ shown ++ "\n" ++ text) ++ back := by
  refine ⟨(if a.isLong then Text.brief a.value else a.value) ++ "\x60" ++
    (if a.required then " -- *Required*" else ""),
    if a.isLong then "\n\x60\x60\x60\n " ++ a.name ++ " = " ++ a.value ++ "\n\x60\x60\x60" else "",
    ?_⟩
  simp only [Argument.text, Argument.heading, h, String.append_assoc]

private theorem exists_argumentSections_eq {name markup : String} {s : Structure}
    {member : String × Member} {sections : List String} (hinput : op.input = some name)
    (hfound : d.shapes.find? name = some (.struct s)) (hmember : member ∈ s.members.entries)
    (hmarkup : member.2.documentation = some markup) (hne : Text.trim (f markup) ≠ "")
    (h : (argumentSections d f op).outcome = .ok sections) :
    ∃ front shown back, sections = ["# Arguments", front ++ ("## \x60" ++
      displayName d.metadata member.1 member.2 ++ " = " ++ shown ++ "\n" ++
        Text.trim (f markup)) ++ back] := by
  rw [argumentSections, hinput] at h
  obtain ⟨block, hblock, rfl⟩ := (Report.outcome_map_eq_ok_iff _ _ _).mp h
  obtain ⟨arguments, rfl, hstates⟩ :=
    exists_arguments_of_argumentBlock hfound List.not_mem_nil hblock
  obtain ⟨a, ha, hstate⟩ := exists_of_mem_left hstates hmember
  have hdocumentation : a.documentation = some (Text.trim (f markup)) := by
    rw [hstate.documentation, hmarkup, embedded?_some hne]
  obtain ⟨shown, behind, htext⟩ := exists_text_eq_of_documentation hdocumentation
  obtain ⟨before, after, hsplit⟩ := List.append_of_mem (List.mem_map_of_mem (f := Argument.text) ha)
  obtain ⟨front, back, hplace⟩ := exists_intercalate_eq "\n\n" before after
  have hblock : argumentsText arguments = front ++ ("## \x60" ++
      displayName d.metadata member.1 member.2 ++ " = " ++ shown ++ "\n" ++
        Text.trim (f markup)) ++ (behind ++ back) := by
    rw [← hstate.name, argumentsText, hsplit, List.append_cons,
      hplace [a.text] (List.cons_ne_nil _ _), String.intercalate_singleton, htext]
    simp only [String.append_assoc]
  have hfull : (argumentsText arguments).isEmpty = false := by
    rw [hblock]
    simp
  simp only [hfull, Bool.false_eq_true, if_false]
  exact ⟨front, shown, behind ++ back, by rw [hblock]⟩

private theorem resultSections_eq {name markup : String} {s : Structure}
    (houtput : op.output = some name)
    (hfound : d.shapes.find? name = some (.struct s)) (hmarkup : s.documentation = some markup)
    (hne : Text.trim (f markup) ≠ "") :
    resultSections d f op =
      ["# Returns\n\n\x60" ++ name ++ "\x60" ++ ("\n\n" ++ Text.trim (f markup))] := by
  have hembedded := embedded?_some hne
  simp [resultSections, houtput, hfound, Shape.structure?, hmarkup, hembedded]

/-- The documentation of an operation shows the markup that comes into it. -/
theorem showsMarkup_of_operationDocumentation {signatures : Signatures} {documentation : String}
    (h : (operationDocumentation d f moduleName key op signatures).outcome = .ok documentation) :
    ShowsMarkup d f key op documentation := by
  obtain ⟨arguments, harguments, rfl⟩ := (Report.outcome_map_eq_ok_iff _ _ _).mp h
  refine ⟨?_, ?_, ?_⟩
  · intro markup hmarkup hne
    rw [hmarkup, embedded?_some hne]
    obtain ⟨front, back, hplace⟩ := exists_intercalate_eq "\n\n"
      [usageSection d moduleName key signatures]
      (arguments ++ resultSections d f op ++ errorSections op ++
        (d.examplesFor key).map exampleText ++ referenceSections d key)
    refine ⟨front, back, ?_⟩
    simpa [String.intercalate_cons_cons, String.append_assoc] using
      hplace ["# " ++ key ++ " Operation", Text.trim (f markup)] (List.cons_ne_nil _ _)
  · intro name s markup houtput hfound hmarkup hne
    rw [resultSections_eq houtput hfound hmarkup hne]
    obtain ⟨front, back, hplace⟩ := exists_intercalate_eq "\n\n"
      ([usageSection d moduleName key signatures, "# " ++ key ++ " Operation"] ++
        (f.embedded? op.documentation).toList ++ arguments)
      (errorSections op ++ (d.examplesFor key).map exampleText ++ referenceSections d key)
    refine ⟨front, back, ?_⟩
    simpa [String.append_assoc, -String.reduceAppend] using
      hplace ["# Returns\n\n\x60" ++ name ++ "\x60" ++ ("\n\n" ++ Text.trim (f markup))]
        (List.cons_ne_nil _ _)
  · intro name s member markup hinput hfound hmember hmarkup hne
    obtain ⟨front, shown, back, rfl⟩ :=
      exists_argumentSections_eq hinput hfound hmember hmarkup hne harguments
    obtain ⟨front', back', hplace⟩ := exists_intercalate_eq "\n\n"
      ([usageSection d moduleName key signatures, "# " ++ key ++ " Operation"] ++
        (f.embedded? op.documentation).toList ++ ["# Arguments"])
      (resultSections d f op ++ errorSections op ++ (d.examplesFor key).map exampleText ++
        referenceSections d key)
    refine ⟨front' ++ front, shown, back ++ back', ?_⟩
    simpa [String.append_assoc] using
      hplace [front ++ ("## \x60" ++ displayName d.metadata member.1 member.2 ++ " = " ++ shown ++
        "\n" ++ Text.trim (f markup)) ++ back] (List.cons_ne_nil _ _)

/-- The module shows the markup of the service in front of the bindings. -/
theorem exists_moduleText_eq {markup : String} (hmarkup : d.documentation = some markup)
    (hne : Text.trim (f markup) ≠ "") (moduleName : String) (bindings : List String) :
    ∃ rest, moduleText d f moduleName bindings =
      fileHeader d.metadata ++ "\n" ++ docstring (Text.trim (f markup)) ++ rest := by
  refine ⟨"module " ++ moduleName ++ "\n\nusing AWSCore\nusing AWSCore.Services." ++
    dispatcherName d.metadata ++ "\n\n" ++ String.join (bindings.map (· ++ "\n")) ++
    moduleClosing moduleName, ?_⟩
  rw [moduleText, moduleOpening, hmarkup, embedded?_some hne]
  simp only [String.append_assoc]

/-- A generation with a formatter is a plain one of the description whose documentation was
formatted, text by text: the files or the failure are the same, and so are the events. In the files
of a service each text is shown that its formatter made, apart from blank ones: that of the service
as a docstring at the head of the module, and those that come into the documentation of an operation
in a docstring of its own. -/
theorem generate_eq_generate_mapDocumentation (d : Description) (f : Formatter)
    (chosen : Option String) :
    generate d f chosen = generate (d.mapDocumentation f) id chosen ∧
    ∀ bundle, (generate d f chosen).outcome = .ok bundle →
      (∀ markup, d.documentation = some markup → Text.trim (f markup) ≠ "" →
        ∃ rest, bundle.bindings =
          fileHeader d.metadata ++ "\n" ++ docstring (Text.trim (f markup)) ++ rest) ∧
      ∀ entry ∈ d.operations.entries, ∃ front documentation back,
        bundle.bindings = front ++ docstring documentation ++ back ∧
          ShowsMarkup d f entry.1 entry.2 documentation := by
  refine ⟨by rw [← generate_comp, Function.id_comp], fun bundle hbundle => ?_⟩
  obtain ⟨moduleName, bindings, -, hbindings, rfl⟩ := outcome_generate_eq_ok_iff.mp hbundle
  refine ⟨fun markup hmarkup hne => exists_moduleText_eq hmarkup hne moduleName bindings, ?_⟩
  intro entry hentry
  obtain ⟨text, htext, hbinding⟩ := exists_of_mem_left hbindings hentry
  obtain ⟨-, s, documentation, -, hdocumentation, rfl⟩ :=
    outcome_operationBinding_eq_ok_iff.mp hbinding
  obtain ⟨before, after, rfl⟩ := List.append_of_mem htext
  refine ⟨moduleOpening d f moduleName ++ String.join (before.map (· ++ "\n")), documentation,
    (CallThrough.ofOperation d entry.1 entry.2).text ++ "\n" ++
      String.join (after.map (· ++ "\n")) ++ moduleClosing moduleName, ?_,
    showsMarkup_of_operationDocumentation hdocumentation⟩
  simp [moduleText, String.append_assoc]

/-- A formatter that leaves blanks around what it marks. -/
def marked : Formatter := fun markup => " <<" ++ markup ++ ">>\n"

/-- Letters are posted for a receipt, and all of it is documented. -/
def letterDescription : Description where
  metadata := .ofRequired .json "letters" "2024-01-01"
  documentation := some "All about letters."
  operations := NameTable.empty.put "PostLetter"
    { Operation.ofRequest "PostLetter" ⟨.post, "/"⟩ with
      input := some "Letter", output := some "Receipt", documentation := some "Posts a letter." }
  shapes :=
    ((NameTable.empty.put "Letter"
      (.struct ⟨NameTable.empty.put "To" ⟨"Place", none, some "Where it goes."⟩, ["To"], none⟩)).put
        "Place" (.string [])).put
          "Receipt" (.struct ⟨NameTable.empty, [], some "Proof of postage."⟩)
  examples := ∅

/-- Every documentation of the letters is marked once. -/
theorem generate_letters_marked :
    ∃ bundle, (generate letterDescription marked none).outcome = .ok bundle ∧
      (generate (letterDescription.mapDocumentation marked) id none).outcome = .ok bundle ∧
      (∃ rest, bundle.bindings =
        fileHeader letterDescription.metadata ++ "\n" ++ docstring "<<All about letters.>>" ++
          rest) ∧
      ∃ front documentation back, bundle.bindings = front ++ docstring documentation ++ back ∧
        (∃ front back, documentation =
          front ++ "# PostLetter Operation\n\n<<Posts a letter.>>" ++ back) ∧
        (∃ front back, documentation =
          front ++ "# Returns\n\n\x60Receipt\x60\n\n<<Proof of postage.>>" ++ back) ∧
        ∃ front shown back, documentation =
          front ++ ("## \x60To = " ++ shown ++ "\n<<Where it goes.>>") ++ back := by
  obtain ⟨hequal, hshown⟩ := generate_eq_generate_mapDocumentation letterDescription marked none
  obtain ⟨bundle, hbundle⟩ :
      ∃ bundle, (generate letterDescription marked none).outcome = .ok bundle :=
    ⟨_, by with_unfolding_all rfl⟩
  obtain ⟨hservice, hoperations⟩ := hshown bundle hbundle
  have hkept : ∀ markup ∈ ["All about letters.", "Posts a letter.", "Proof of postage.",
      "Where it goes."], Text.trim (marked markup) = "<<" ++ markup ++ ">>" := by
    decide +kernel
  simp only [List.mem_cons, List.not_mem_nil, or_false, forall_eq_or_imp, forall_eq] at hkept
  obtain ⟨hall, hposts, hproof, hgoes⟩ := hkept
  obtain ⟨front, documentation, back, hbindings, hdocumentation⟩ :=
    hoperations _ (List.mem_singleton.mpr rfl)
  refine ⟨bundle, hbundle, hequal ▸ hbundle, ?_, front, documentation, back, hbindings, ?_, ?_, ?_⟩
  · simpa [hall] using hservice _ rfl (by simp [hall])
  · simpa [hposts] using hdocumentation.operation _ rfl (by simp [hposts])
  · simpa [hproof] using hdocumentation.result _ _ _ rfl rfl rfl (by simp [hproof])
  · have hname : displayName letterDescription.metadata "To"
        ⟨"Place", none, some "Where it goes."⟩ = "To" := rfl
    obtain ⟨front, shown, back, h⟩ := hdocumentation.member _ _ _ _ rfl rfl
      (List.mem_singleton.mpr rfl) rfl (by simp [hgoes])
    refine ⟨front, shown, back, ?_⟩
    rw [hgoes, hname] at h
    simpa [String.append_assoc] using h

end ApiBindings.Bindings
