import ApiBindings.Proofs.Bundle
import ApiBindings.Proofs.Outcome

/-!
# Operations without a binding

An operation has no binding if its request contradicts the protocol of its service, or if its input
cannot be documented: it is not declared, it is no structure, or references lead from it to a name
that is not declared. The first of these obstacles is what the generation of the operation fails
with, and the first operation that meets one is what the generation of the service fails with.
-/

namespace ApiBindings.Bindings

open Service

variable {d : Description} {docs : Formatter} {moduleName key : String} {op : Operation}
  {f : Failure}

/-! ### Contradictions -/

/-- A service whose operations are told apart by their names alone. -/
def IsSimplePost (m : Metadata) : Prop :=
  (m.protocol = .json ∨ m.protocol = .query ∨ m.protocol = .ec2) ∧ m.endpointPrefix ≠ "importexport"

/-- Another request than `POST /` in a service that has no other. -/
def StraysFromRoot (m : Metadata) (http : HttpBinding) : Prop :=
  IsSimplePost m ∧ ¬ (http.method = .post ∧ http.requestUri = "/")

/-- Path parameters in a service without paths. -/
def HasStrayParameters (m : Metadata) (http : HttpBinding) : Prop :=
  m.protocol ≠ .restJson ∧ m.protocol ≠ .restXml ∧ Text.pathParameters http.requestUri ≠ []

/-- How a request contradicts the protocol of its service. That it is not `POST /` comes first. -/
inductive Contradicts (m : Metadata) (http : HttpBinding) : Contradiction → Prop
  | notPostRoot (stray : StraysFromRoot m http) : Contradicts m http (.notPostRoot m.protocol http)
  | pathParameters (root : ¬ StraysFromRoot m http) (parameters : HasStrayParameters m http) :
      Contradicts m http (.pathParameters http.requestUri m.protocol)

private theorem straysFromRoot_iff {m : Metadata} {http : HttpBinding} :
    StraysFromRoot m http ↔ Family.ofMetadata m = .simplePost ∧ http ≠ .postRoot := by
  have hroot : http = .postRoot ↔ http.method = .post ∧ http.requestUri = "/" := by
    obtain ⟨method, uri⟩ := http
    simp [HttpBinding.postRoot]
  have hsimple : IsSimplePost m ↔ Family.ofMetadata m = .simplePost := by
    rw [IsSimplePost, Family.ofMetadata, ← rpcEndpoint]
    by_cases hrpc : m.endpointPrefix = rpcEndpoint <;> cases m.protocol <;>
      simp [Protocol.isRest, hrpc]
  rw [StraysFromRoot, hsimple, ne_eq, hroot]

private theorem hasStrayParameters_iff {m : Metadata} {http : HttpBinding} :
    HasStrayParameters m http ↔ (Text.hasPathParameters http.requestUri &&
      !(Family.ofMetadata m).allowsPathParameters) = true := by
  rw [HasStrayParameters, Text.hasPathParameters, Family.ofMetadata]
  by_cases hrpc : m.endpointPrefix = rpcEndpoint <;> cases m.protocol <;>
    simp [Protocol.isRest, Family.allowsPathParameters, hrpc]

/-- The check of a request finds the contradiction that comes first. -/
theorem contradiction?_eq_some_iff {m : Metadata} {http : HttpBinding} {reason : Contradiction} :
    contradiction? m http = some reason ↔ Contradicts m http reason := by
  rw [contradiction?]
  by_cases hstray : StraysFromRoot m http
  · rw [if_pos (straysFromRoot_iff.mp hstray)]
    constructor
    · intro h
      cases h
      exact .notPostRoot hstray
    · intro h
      cases h with
      | notPostRoot => rfl
      | pathParameters root => exact absurd hstray root
  · rw [if_neg (straysFromRoot_iff.not.mp hstray)]
    by_cases hparameters : HasStrayParameters m http
    · rw [if_pos (hasStrayParameters_iff.mp hparameters)]
      constructor
      · intro h
        cases h
        exact .pathParameters hstray hparameters
      · intro h
        cases h with
        | notPostRoot stray => exact absurd stray hstray
        | pathParameters => rfl
    · rw [if_neg (hasStrayParameters_iff.not.mp hparameters)]
      refine iff_of_false (by simp) fun h => ?_
      cases h with
      | notPostRoot stray => exact hstray stray
      | pathParameters root parameters => exact hparameters parameters

private theorem contradiction?_eq_none_iff {m : Metadata} {http : HttpBinding} :
    contradiction? m http = none ↔ ∀ reason, ¬ Contradicts m http reason := by
  simp only [← contradiction?_eq_some_iff, Option.eq_none_iff_forall_ne_some, ne_eq]

/-! ### Inputs that cannot be documented -/

/-- Signatures fail with an input that is not declared, and with nothing else. -/
theorem signatures_eq_error_iff :
    signatures d key op = .error f ↔
      ∃ name, op.input = some name ∧ ¬ d.Declares name ∧ f = .unknownShape name := by
  have harguments : signatures d key op = .error f ↔ argumentList d op = .error f := by
    rw [signatures]
    cases argumentList d op <;> simp [Except.map]
  rw [harguments, argumentList]
  cases op.input with
  | none => simp
  | some name =>
    cases hfound : d.shapes.find? name with
    | none => simp [hfound, Description.not_declares_iff, eq_comm]
    | some shape => cases shape <;> simp [hfound, Description.not_declares_iff]

/-- Why the arguments of an input structure cannot be documented. -/
inductive Undocumented (d : Description) (name : String) : Failure → Prop
  | undeclared (h : ¬ d.Declares name) : Undocumented d name (.unknownShape name)
  | flat {shape : Shape} (found : d.shapes.find? name = some shape)
      (flat : shape.structure? = none) : Undocumented d name (.notStructure name shape.kind)
  | loose {s : Structure} {position : List Nat} {passed : List String} {m : String}
      (found : d.shapes.find? name = some (.struct s))
      (first : IsFirstLooseEnd d [] name position passed m) :
      Undocumented d name (.unknownShape m)

private theorem undocumented_of_not_declares {name : String} (h : ¬ d.Declares name) :
    Undocumented d name f ↔ f = .unknownShape name := by
  have hnone := Description.not_declares_iff.mp h
  constructor
  · intro hf
    cases hf with
    | undeclared => rfl
    | flat found => rw [hnone] at found; cases found
    | loose found => rw [hnone] at found; cases found
  · rintro rfl
    exact .undeclared h

private theorem undocumented_of_flat {name : String} {shape : Shape}
    (hfound : d.shapes.find? name = some shape) (hflat : shape.structure? = none) :
    Undocumented d name f ↔ f = .notStructure name shape.kind := by
  constructor
  · intro hf
    cases hf with
    | undeclared h => exact absurd (Description.declares_iff.mpr ⟨shape, hfound⟩) h
    | flat found =>
      rw [hfound] at found
      cases found
      rfl
    | loose found =>
      rw [hfound] at found
      cases found
      cases hflat
  · rintro rfl
    exact .flat hfound hflat

private theorem undocumented_of_struct {name : String} {s : Structure}
    (hfound : d.shapes.find? name = some (.struct s)) :
    Undocumented d name f ↔
      ∃ position passed m, IsFirstLooseEnd d [] name position passed m ∧ f = .unknownShape m := by
  constructor
  · intro hf
    cases hf with
    | undeclared h => exact absurd (Description.declares_iff.mpr ⟨_, hfound⟩) h
    | flat found flat =>
      rw [hfound] at found
      cases found
      cases flat
    | loose found first => exact ⟨_, _, _, first, rfl⟩
  · rintro ⟨position, passed, m, first, rfl⟩
    exact .loose hfound first

private theorem outcome_argumentBlock_struct_eq_error_iff {name : String} {s : Structure}
    (hfound : d.shapes.find? name = some (.struct s)) :
    (argumentBlock d docs [] name).outcome = .error f ↔ (expand d [] name).outcome = .error f := by
  have hrender : argumentBlock d docs [] name = render d docs "" [] name := rfl
  have hnot : ∀ shape, ¬ Refused d "" [] name shape := by
    intro shape hrefused
    have hsame := hfound.symm.trans hrefused.found
    cases hsame
    cases hrefused.flat
  rw [hrender, render_eq_map_shown hnot, Report.outcome_map_eq_error_iff]

private theorem outcome_argumentBlock_eq_error_iff {name : String} :
    (argumentBlock d docs [] name).outcome = .error f ↔ Undocumented d name f := by
  cases hfound : d.shapes.find? name with
  | none =>
    rw [undocumented_of_not_declares (Description.not_declares_iff.mpr hfound), argumentBlock,
      hfound]
    simp [Report.fail, eq_comm]
  | some shape =>
    cases hshape : shape.structure? with
    | some s =>
      obtain rfl := Shape.structure?_eq_some_iff.mp hshape
      rw [undocumented_of_struct hfound, outcome_argumentBlock_struct_eq_error_iff hfound,
        outcome_expand_eq_error_iff_first]
    | none =>
      have hrefused : Refused d "" [] name shape := ⟨rfl, hfound, by simp, hshape⟩
      have hblock : argumentBlock d docs [] name = .fail (.notStructure name shape.kind) :=
        render_refused hrefused
      rw [undocumented_of_flat hfound hshape, hblock]
      simp [Report.fail, eq_comm]

private theorem forall_not_undocumented_iff {name : String} :
    (∀ f, ¬ Undocumented d name f) ↔
      (∃ s, d.shapes.find? name = some (.struct s)) ∧
        ∀ m, Relation.ReflTransGen d.Refers name m → d.Declares m := by
  cases hfound : d.shapes.find? name with
  | none =>
    refine iff_of_false ?_ (by simp)
    intro h
    exact h _ (.undeclared (Description.not_declares_iff.mpr hfound))
  | some shape =>
    cases hshape : shape.structure? with
    | none =>
      refine iff_of_false ?_ ?_
      · intro h
        exact h _ (.flat hfound hshape)
      · rintro ⟨⟨s, hs⟩, -⟩
        cases hs
        cases hshape
    | some s =>
      obtain rfl := Shape.structure?_eq_some_iff.mp hshape
      have hloose : (∀ f, ¬ Undocumented d name f) ↔
          ¬ ∃ m, Relation.ReflTransGen d.Refers name m ∧ ¬ d.Declares m := by
        rw [← exists_isLooseEnd_nil_iff, ← exists_outcome_expand_eq_ok_iff_not_loose,
          Report.exists_outcome_eq_ok_iff]
        simp only [undocumented_of_struct hfound, ne_eq, outcome_expand_eq_error_iff_first]
      rw [hloose]
      simp

/-- The documentation of an operation fails with its input and with nothing else. -/
theorem outcome_operationDocumentation_eq_error_iff {s : Signatures} :
    (operationDocumentation d docs moduleName key op s).outcome = .error f ↔
      ∃ name, op.input = some name ∧ Undocumented d name f := by
  rw [operationDocumentation, Report.outcome_map_eq_error_iff, argumentSections]
  cases op.input with
  | none => simp [Report.done]
  | some name =>
    simp only [Report.outcome_map_eq_error_iff, outcome_argumentBlock_eq_error_iff,
      Option.some.injEq, exists_eq_left']

/-! ### Obstacles -/

/-- Why an operation has no binding. -/
inductive Obstacle (d : Description) (key : String) (op : Operation) : Failure → Prop
  | request {reason : Contradiction} (h : Contradicts d.metadata op.http reason) :
      Obstacle d key op (.contradiction key reason)
  | input {name : String} {f : Failure} (agrees : ∀ reason, ¬ Contradicts d.metadata op.http reason)
      (input : op.input = some name) (h : Undocumented d name f) : Obstacle d key op f

/-- The generation of an operation fails with the obstacle that it meets. -/
theorem outcome_operationBinding_eq_error_iff :
    (operationBinding d docs moduleName key op).outcome = .error f ↔ Obstacle d key op f := by
  rw [operationBinding]
  cases hrequest : contradiction? d.metadata op.http with
  | some reason =>
    have hcontradicts := contradiction?_eq_some_iff.mp hrequest
    constructor
    · intro h
      cases h
      exact .request hcontradicts
    · intro h
      cases h with
      | request h =>
        rw [contradiction?_eq_some_iff.mpr h] at hrequest
        cases hrequest
        rfl
      | input agrees => exact absurd hcontradicts (agrees reason)
  | none =>
    have hagrees := contradiction?_eq_none_iff.mp hrequest
    have hinput : Obstacle d key op f ↔ ∃ name, op.input = some name ∧ Undocumented d name f := by
      constructor
      · intro h
        cases h with
        | request h => exact absurd h (hagrees _)
        | input _ input h => exact ⟨_, input, h⟩
      · rintro ⟨name, input, h⟩
        exact .input hagrees input h
    rw [hinput]
    cases hs : signatures d key op with
    | error g =>
      obtain ⟨name, hname, hundeclared, rfl⟩ := signatures_eq_error_iff.mp hs
      simp only [hname, Option.some.injEq, exists_eq_left',
        undocumented_of_not_declares hundeclared]
      simp [Report.fail, eq_comm]
    | ok s =>
      simp only [Report.outcome_bind_eq_error_iff, Report.outcome_map_eq_error_iff, Report.note,
        reduceCtorEq, and_false, exists_false, or_false,
        outcome_operationDocumentation_eq_error_iff]

/-- What an operation must be like to have a binding. -/
structure Bindable (d : Description) (op : Operation) : Prop where
  agrees : ∀ reason, ¬ Contradicts d.metadata op.http reason
  structured : ∀ name, op.input = some name → ∃ s, d.shapes.find? name = some (.struct s)
  closed : ∀ name, op.input = some name →
    ∀ m, Relation.ReflTransGen d.Refers name m → d.Declares m

/-- An operation that meets no obstacle can be bound. -/
theorem bindable_iff_forall_not_obstacle (key : String) :
    Bindable d op ↔ ∀ f, ¬ Obstacle d key op f := by
  constructor
  · intro h f hf
    cases hf with
    | request hrequest => exact h.agrees _ hrequest
    | input _ input hinput =>
      exact forall_not_undocumented_iff.mpr ⟨h.structured _ input, h.closed _ input⟩ f hinput
  · intro h
    have hagrees : ∀ reason, ¬ Contradicts d.metadata op.http reason :=
      fun reason hreason => h _ (.request hreason)
    have hinput : ∀ name, op.input = some name → ∀ f, ¬ Undocumented d name f :=
      fun name hname f hf => h f (.input hagrees hname hf)
    exact ⟨hagrees, fun name hname => (forall_not_undocumented_iff.mp (hinput name hname)).1,
      fun name hname => (forall_not_undocumented_iff.mp (hinput name hname)).2⟩

private theorem exists_outcome_operationBinding_eq_ok_iff :
    (∃ text, (operationBinding d docs moduleName key op).outcome = .ok text) ↔ Bindable d op := by
  rw [Report.exists_outcome_eq_ok_iff, bindable_iff_forall_not_obstacle key]
  simp only [ne_eq, outcome_operationBinding_eq_error_iff]

/-- The obstacle of the first operation that cannot be bound. -/
def IsFirstObstacle (d : Description) (f : Failure) : Prop :=
  ∃ before key op after, d.operations.entries = before ++ (key, op) :: after ∧
    (∀ entry ∈ before, Bindable d entry.2) ∧ Obstacle d key op f

private theorem not_obstacle_noModuleName (source : String) :
    ¬ Obstacle d key op (.noModuleName source) := by
  intro h
  cases h with
  | input _ _ h => cases h

/-- A generation that fails does so for want of a name, or with the first obstacle. -/
theorem outcome_generate_eq_error_iff_first {chosen : Option String} :
    (generate d docs chosen).outcome = .error f ↔
      ((∀ c ∈ (moduleNameSource d.metadata chosen).toList, c.isAlphanum = false) ∧
        f = .noModuleName (moduleNameSource d.metadata chosen)) ∨
      (∃ c ∈ (moduleNameSource d.metadata chosen).toList, c.isAlphanum = true) ∧
        IsFirstObstacle d f := by
  rw [outcome_generate_eq_error_iff, moduleNameOf_eq_error_iff, ← exists_moduleNameOf_eq_ok_iff]
  simp only [exists_outcome_operationBinding_eq_ok_iff, outcome_operationBinding_eq_error_iff,
    exists_and_right, IsFirstObstacle, Prod.exists]

/-- A generation has a result if and only if a name can be made for the module and every operation
can be bound. -/
theorem exists_outcome_generate_eq_ok_iff {chosen : Option String} :
    (∃ bundle, (generate d docs chosen).outcome = .ok bundle) ↔
      (∃ c ∈ (moduleNameSource d.metadata chosen).toList, c.isAlphanum = true) ∧
        ∀ entry ∈ d.operations.entries, Bindable d entry.2 := by
  rw [← exists_moduleNameOf_eq_ok_iff, generate]
  cases moduleNameOf d.metadata chosen with
  | error g => simp [Report.fail]
  | ok moduleName =>
    simp only [Except.ok.injEq, exists_eq', true_and, Report.outcome_bind_eq_ok_iff,
      Report.outcome_map_eq_ok_iff]
    constructor
    · rintro ⟨_, bindings, hbindings, -⟩ entry hentry
      have hall := (Report.exists_outcome_each_eq_ok_iff _ _).mp ⟨bindings, hbindings⟩
      exact exists_outcome_operationBinding_eq_ok_iff.mp (hall entry hentry)
    · intro hall
      obtain ⟨bindings, hbindings⟩ := (Report.exists_outcome_each_eq_ok_iff _ _).mpr
        fun entry hentry => exists_outcome_operationBinding_eq_ok_iff.mpr (hall entry hentry)
      exact ⟨_, bindings, hbindings, (), rfl, rfl⟩

/-- The outcome of a generation, on every description: it fails for want of a name if the source of
the module's name has no letter or digit; else with the obstacle of the first operation that meets
one; else it has a result. An operation meets the obstacle of its request, else that of its input,
and none if and only if it can be bound. -/
theorem generate_outcome_exact (d : Description) (docs : Formatter) (chosen : Option String) :
    (∀ source, (generate d docs chosen).outcome = .error (.noModuleName source) ↔
      (∀ c ∈ (moduleNameSource d.metadata chosen).toList, c.isAlphanum = false) ∧
        source = moduleNameSource d.metadata chosen) ∧
    (∀ f, (generate d docs chosen).outcome = .error f ↔
      ((∀ c ∈ (moduleNameSource d.metadata chosen).toList, c.isAlphanum = false) ∧
        f = .noModuleName (moduleNameSource d.metadata chosen)) ∨
      (∃ c ∈ (moduleNameSource d.metadata chosen).toList, c.isAlphanum = true) ∧
        IsFirstObstacle d f) ∧
    ((∃ bundle, (generate d docs chosen).outcome = .ok bundle) ↔
      (∃ c ∈ (moduleNameSource d.metadata chosen).toList, c.isAlphanum = true) ∧
        ∀ entry ∈ d.operations.entries, Bindable d entry.2) ∧
    (∀ moduleName key op f,
      (operationBinding d docs moduleName key op).outcome = .error f ↔ Obstacle d key op f) ∧
    (∀ key op, Bindable d op ↔ ∀ f, ¬ Obstacle d key op f) := by
  refine ⟨?_, fun f => outcome_generate_eq_error_iff_first, exists_outcome_generate_eq_ok_iff,
    fun _ _ _ _ => outcome_operationBinding_eq_error_iff,
    fun key _ => bindable_iff_forall_not_obstacle key⟩
  intro source
  rw [outcome_generate_eq_error_iff_first]
  constructor
  · rintro (⟨hnone, heq⟩ | ⟨-, _, _, _, _, -, -, hobstacle⟩)
    · cases heq
      exact ⟨hnone, rfl⟩
    · exact absurd hobstacle (not_obstacle_noModuleName source)
  · rintro ⟨hnone, rfl⟩
    exact .inl ⟨hnone, rfl⟩

end ApiBindings.Bindings
