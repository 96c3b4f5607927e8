import ApiBindings.Bindings.Binding
import ApiBindings.Proofs.Report

/-!
# Bindings that are generated

What a generated binding is made of, and that its request agrees with its service's protocol.
-/

namespace ApiBindings.Bindings

open Service

variable {d : Description} {docs : Formatter} {moduleName key : String} {op : Operation}

/-- Requests of a service without paths are `POST /`. -/
theorem postRoot_of_not_contradiction {m : Metadata} {http : HttpBinding}
    (h : contradiction? m http = none) (hfamily : Family.ofMetadata m = .simplePost) :
    http = .postRoot := by
  by_contra hne
  rw [contradiction?, if_pos ⟨hfamily, hne⟩] at h
  cases h

/-- A generated binding is a docstring and the functions of its operation. -/
theorem outcome_operationBinding_eq_ok_iff {text : String} :
    (operationBinding d docs moduleName key op).outcome = .ok text ↔
      contradiction? d.metadata op.http = none ∧
        ∃ s documentation, signatures d key op = .ok s ∧
          (operationDocumentation d docs moduleName key op s).outcome = .ok documentation ∧
          text = docstring documentation ++ (CallThrough.ofOperation d key op).text := by
  rw [operationBinding]
  cases contradiction? d.metadata op.http with
  | some reason => simp [Report.fail]
  | none =>
    cases signatures d key op with
    | error f => simp [Report.fail]
    | ok s =>
      simp only [Report.outcome_bind_eq_ok_iff, Report.outcome_map_eq_ok_iff, true_and,
        Except.ok.injEq]
      constructor
      · rintro ⟨documentation, hdocumentation, _, -, rfl⟩
        exact ⟨s, documentation, rfl, hdocumentation, rfl⟩
      · rintro ⟨_, documentation, rfl, hdocumentation, rfl⟩
        exact ⟨documentation, hdocumentation, (), rfl, rfl⟩

/-- The documentation of an operation begins with the ways of calling it. -/
theorem exists_operationDocumentation_eq {s : Signatures} {documentation : String}
    (h : (operationDocumentation d docs moduleName key op s).outcome = .ok documentation) :
    ∃ rest, documentation = usageSection d moduleName key s ++ "\n\n" ++ rest := by
  obtain ⟨arguments, -, rfl⟩ := (Report.outcome_map_eq_ok_iff _ _ _).mp h
  simp only [List.cons_append, List.nil_append]
  exact ⟨_, String.intercalate_cons_cons⟩

/-- The qualified signatures show the literals that a call passes on, in their order. -/
theorem exists_argumentList_of_signatures {s : Signatures} (h : signatures d key op = .ok s) :
    ∃ arguments, argumentList d op = .ok arguments ∧
      s.qualifiedDictionary = dispatcherName d.metadata ++ "([::AWSConfig], " ++
        ", ".intercalate (passedLiterals d key op) ++ ", arguments::Dict)" ∧
      s.qualifiedKeyword = dispatcherName d.metadata ++ "([::AWSConfig], " ++
        ", ".intercalate (passedLiterals d key op) ++
        (if arguments.isEmpty then "" else ", " ++ arguments) ++ ")" := by
  rw [signatures] at h
  cases harguments : argumentList d op with
  | error e =>
    rw [harguments] at h
    cases h
  | ok arguments =>
    rw [harguments] at h
    cases h
    exact ⟨arguments, rfl, rfl, rfl⟩

end ApiBindings.Bindings
