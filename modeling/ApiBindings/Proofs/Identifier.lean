import ApiBindings.Proofs.Bundle
import ApiBindings.Proofs.Name

/-!
# Names in generated files

The generated files name the module and the dispatcher. The module is named by letters and digits,
the dispatcher by letters, digits and underscores, but nothing keeps a digit from the start of
either, nor the name of the dispatcher from being empty. Both are identifiers exactly if the texts
that they are made from start off a digit.
-/

namespace ApiBindings.Bindings

open Service

variable {d : Description} {docs : Formatter} {chosen : Option String} {b : Bundle}

private theorem moduleNameOf_eq_ok {m : Metadata} {name : String}
    (h : moduleNameOf m chosen = .ok name) :
    name = Text.moduleName (moduleNameSource m chosen) ∧ name ≠ "" := by
  rw [moduleNameOf] at h
  split at h
  · cases h
  next hnonempty =>
    cases h
    exact ⟨rfl, by simpa using hnonempty⟩

private theorem exists_bindings_eq_module (h : (generate d docs chosen).outcome = .ok b) :
    ∃ opening units, b.bindings = opening ++ "module " ++ b.moduleName ++
      "\n\nusing AWSCore\nusing AWSCore.Services." ++ dispatcherName d.metadata ++ "\n\n" ++ units ++
      "end # module " ++ b.moduleName ++ "\n" := by
  obtain ⟨name, bindings, -, -, rfl⟩ := outcome_generate_eq_ok_iff.mp h
  obtain ⟨opening, hopening⟩ : ∃ opening, moduleOpening d docs name =
      opening ++ "module " ++ name ++ "\n\nusing AWSCore\nusing AWSCore.Services." ++
        dispatcherName d.metadata ++ "\n\n" := ⟨_, rfl⟩
  refine ⟨opening, String.join (bindings.map (· ++ "\n")), ?_⟩
  simp only [moduleText, hopening, moduleClosing, String.append_assoc]

private theorem Dispatcher.exists_text_eq (f : Dispatcher) :
    ∃ body, f.text = "function " ++ f.name ++ "(" ++ body := by
  unfold Dispatcher.text
  simp only [String.append_assoc]
  exact ⟨_, rfl⟩

private theorem exists_dispatcher_eq_function (h : (generate d docs chosen).outcome = .ok b) :
    ∃ opening body,
      b.dispatcher = opening ++ "function " ++ dispatcherName d.metadata ++ "(" ++ body := by
  obtain ⟨name, bindings, -, -, rfl⟩ := outcome_generate_eq_ok_iff.mp h
  obtain ⟨body, hbody⟩ := (Dispatcher.ofMetadata d.metadata).exists_text_eq
  have hname : (Dispatcher.ofMetadata d.metadata).name = dispatcherName d.metadata := rfl
  refine ⟨fileHeader d.metadata ++ "\n", body, ?_⟩
  simp only [dispatcherText, hbody, hname, String.append_assoc]

/-- The names in the files of a service. The name of the module is some letters and digits, that of
the dispatcher is any number of letters, digits and underscores. The module is named by an
identifier if and only if the first letter or digit of the text that it is named after is a letter,
and the dispatcher if and only if the endpoint prefix starts with a character other than a digit. -/
theorem generated_names_identify_iff (h : (generate d docs chosen).outcome = .ok b) :
    (∃ opening units, b.bindings = opening ++ "module " ++ b.moduleName ++
      "\n\nusing AWSCore\nusing AWSCore.Services." ++ dispatcherName d.metadata ++ "\n\n" ++ units ++
      "end # module " ++ b.moduleName ++ "\n") ∧
    (∃ opening body,
      b.dispatcher = opening ++ "function " ++ dispatcherName d.metadata ++ "(" ++ body) ∧
    (b.moduleName ≠ "" ∧ ∀ c ∈ b.moduleName.toList, Text.isWordChar c = true) ∧
    (∀ c ∈ (dispatcherName d.metadata).toList, Text.isWordChar c = true ∨ c = '_') ∧
    (Text.IsIdentifier b.moduleName ↔
      (((moduleNameSource d.metadata chosen).toList.find? Text.isWordChar).any
        fun c => !c.isDigit) = true) ∧
    (Text.IsIdentifier (dispatcherName d.metadata) ↔
      Text.startsOffDigit d.metadata.endpointPrefix.toList = true) := by
  refine ⟨exists_bindings_eq_module h, exists_dispatcher_eq_function h, ?_, ?_, ?_,
    Text.isIdentifier_identifier_iff⟩
  · obtain ⟨name, bindings, hname, -, rfl⟩ := outcome_generate_eq_ok_iff.mp h
    obtain ⟨rfl, hnonempty⟩ := moduleNameOf_eq_ok hname
    refine ⟨hnonempty, fun c hc => ?_⟩
    rw [Text.moduleName, String.toList_ofList] at hc
    exact Text.isWordChar_of_mem_moduleChars hc
  · exact fun c => Text.isWordChar_or_eq_of_mem_identifier
  · obtain ⟨name, bindings, hname, -, rfl⟩ := outcome_generate_eq_ok_iff.mp h
    obtain ⟨rfl, -⟩ := moduleNameOf_eq_ok hname
    exact Text.isIdentifier_moduleName_iff

/-- A service whose names come from texts with blanks, a dot and letters beyond ASCII. -/
def lexDescription : Description :=
  Description.ofMetadata
    ⟨.restJson, none, "\u212aarl.Lex", "2016-11-28", none, none, none, some "é Lex: Karl 2", none⟩

/-- Both of its names are identifiers. -/
theorem lex_names_identify : ∃ b, (generate lexDescription id none).outcome = .ok b ∧
    b.moduleName = "LexKarl2" ∧ dispatcherName lexDescription.metadata = "karl_lex" ∧
      Text.IsIdentifier b.moduleName ∧
      Text.IsIdentifier (dispatcherName lexDescription.metadata) := by
  obtain ⟨b, hname, h⟩ : ∃ b : Bundle, b.moduleName = "LexKarl2" ∧
      (generate lexDescription id none).outcome = .ok b := ⟨_, by decide +kernel, rfl⟩
  obtain ⟨-, -, -, -, hmodule, hdispatcher⟩ := generated_names_identify_iff h
  exact ⟨b, h, hname, by decide +kernel, hmodule.mpr (by decide), hdispatcher.mpr (by decide)⟩

/-- A service whose endpoint starts with a digit. -/
def twoFactorDescription : Description :=
  Description.ofMetadata (.ofRequired .json "2fa" "2020-01-01")

/-- It is generated although neither its module nor its dispatcher is named by an identifier. -/
theorem digits_start_generated_names : ∃ b, (generate twoFactorDescription id none).outcome = .ok b ∧
    b.moduleName = "2fa" ∧ dispatcherName twoFactorDescription.metadata = "2fa" ∧
      ¬Text.IsIdentifier b.moduleName ∧
      ¬Text.IsIdentifier (dispatcherName twoFactorDescription.metadata) := by
  have hdispatcher : dispatcherName twoFactorDescription.metadata = "2fa" := by decide
  have hdigit : ¬Text.IsIdentifier "2fa" := by decide
  obtain ⟨b, hname, h⟩ : ∃ b : Bundle, b.moduleName = "2fa" ∧
      (generate twoFactorDescription id none).outcome = .ok b := ⟨_, by decide +kernel, rfl⟩
  refine ⟨b, h, hname, hdispatcher, ?_, ?_⟩
  · rwa [hname]
  · rwa [hdispatcher]

end ApiBindings.Bindings
