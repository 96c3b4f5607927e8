import ApiBindings.Bindings.Bundle
import ApiBindings.Proofs.Binding

/-!
# Services that are generated

A service is generated if a name can be made for its module and every operation has a binding.
Otherwise it fails for want of a name, before any operation is looked at, or with the first
operation that has no binding.
-/

namespace ApiBindings.Bindings

open Service

variable {d : Description} {docs : Formatter} {chosen : Option String} {m : Metadata}

private theorem moduleName_isEmpty_iff {source : String} :
    (Text.moduleName source).isEmpty = true ↔ ∀ c ∈ source.toList, c.isAlphanum = false := by
  rw [String.isEmpty_iff, Text.moduleName, String.ofList_eq_empty_iff, Text.moduleChars_eq_nil_iff]
  rfl

/-- No name can be made from a source without letters and digits. -/
theorem moduleNameOf_eq_error_iff {f : Failure} :
    moduleNameOf m chosen = .error f ↔
      (∀ c ∈ (moduleNameSource m chosen).toList, c.isAlphanum = false) ∧
        f = .noModuleName (moduleNameSource m chosen) := by
  rw [← moduleName_isEmpty_iff, moduleNameOf]
  cases (Text.moduleName (moduleNameSource m chosen)).isEmpty <;> simp [eq_comm]

/-- A name can be made from a source with a letter or digit. -/
theorem exists_moduleNameOf_eq_ok_iff :
    (∃ name, moduleNameOf m chosen = .ok name) ↔
      ∃ c ∈ (moduleNameSource m chosen).toList, c.isAlphanum = true := by
  cases h : moduleNameOf m chosen with
  | error f =>
    obtain ⟨hnone, -⟩ := moduleNameOf_eq_error_iff.mp h
    simpa using hnone
  | ok name =>
    refine iff_of_true ⟨name, rfl⟩ ?_
    by_contra hnone
    have herror := moduleNameOf_eq_error_iff.mpr ⟨by simpa using hnone, rfl⟩
    rw [h] at herror
    cases herror

/-- A generated service is the bindings of its operations, in order, with what stands around
them. -/
theorem outcome_generate_eq_ok_iff {bundle : Bundle} :
    (generate d docs chosen).outcome = .ok bundle ↔
      ∃ moduleName bindings, moduleNameOf d.metadata chosen = .ok moduleName ∧
        List.Forall₂ (fun (entry : String × Operation) text =>
          (operationBinding d docs moduleName entry.1 entry.2).outcome = .ok text)
          d.operations.entries bindings ∧
        bundle = ⟨moduleName, moduleText d docs moduleName bindings, dispatcherText d.metadata⟩ := by
  rw [generate]
  cases moduleNameOf d.metadata chosen with
  | error f => simp [Report.fail]
  | ok moduleName =>
    simp only [Report.outcome_bind_eq_ok_iff, Report.outcome_map_eq_ok_iff,
      Report.outcome_each_eq_ok_iff, Except.ok.injEq]
    constructor
    · rintro ⟨bindings, hbindings, _, -, rfl⟩
      exact ⟨moduleName, bindings, rfl, hbindings, rfl⟩
    · rintro ⟨_, bindings, rfl, hbindings, rfl⟩
      exact ⟨bindings, hbindings, (), rfl, rfl⟩

/-- A service fails for want of a name, or with the first operation that has no binding. -/
theorem outcome_generate_eq_error_iff {f : Failure} :
    (generate d docs chosen).outcome = .error f ↔
      moduleNameOf d.metadata chosen = .error f ∨
        ∃ moduleName, moduleNameOf d.metadata chosen = .ok moduleName ∧
          ∃ before entry after, d.operations.entries = before ++ entry :: after ∧
            (∀ e ∈ before, ∃ text,
              (operationBinding d docs moduleName e.1 e.2).outcome = .ok text) ∧
            (operationBinding d docs moduleName entry.1 entry.2).outcome = .error f := by
  rw [generate]
  cases moduleNameOf d.metadata chosen with
  | error g => simp [Report.fail]
  | ok moduleName =>
    -- The last step only notes that the service is finished, and cannot fail.
    simp only [Report.outcome_bind_eq_error_iff, Report.outcome_each_eq_error_iff,
      Report.outcome_map_eq_error_iff, Report.note, reduceCtorEq, and_false, exists_false,
      or_false, false_or, Except.ok.injEq, exists_eq_left']

end ApiBindings.Bindings
