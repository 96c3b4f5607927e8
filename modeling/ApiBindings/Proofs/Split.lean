import ApiBindings.Proofs.Alike
import ApiBindings.Proofs.Bundle

/-!
# Splitting a service

The operations of a service are bound one after the other, and nothing is handed on from one to the
next. A service may therefore be split anywhere into the same service with its first operations and
the same service with the others: their bindings stand one behind the other between the same texts,
and so do their events.
-/

namespace ApiBindings.Service

namespace NameTable

variable {α : Type}

/-- The first items of a table. -/
def take (n : Nat) (t : NameTable α) : NameTable α where
  entries := t.entries.take n
  distinct := t.distinct.sublist ((List.take_sublist n _).map _)

/-- The items of a table behind the first ones. -/
def drop (n : Nat) (t : NameTable α) : NameTable α where
  entries := t.entries.drop n
  distinct := t.distinct.sublist ((List.drop_sublist n _).map _)

private theorem entries_take_append_drop (n : Nat) (t : NameTable α) :
    (t.take n).entries ++ (t.drop n).entries = t.entries :=
  List.take_append_drop n t.entries

end NameTable

/-- The same service with other operations. -/
def Description.withOperations (d : Description) (operations : NameTable Operation) :
    Description :=
  { d with operations := operations }

end ApiBindings.Service

namespace ApiBindings.Bindings

open Service

variable {d : Description} {docs : Formatter} {chosen : Option String} {moduleName : String}

/-! ### What operations report -/

/-- Events that follow a report if it has a result. -/
def Report.ifDone {α : Type} (r : Report α) (events : List Event) : List Event :=
  match r.outcome with
  | .ok _ => events
  | .error _ => []

private theorem exists_recursion_of_mem_expand {chain : List String} {name : String} {e : Event}
    (he : e ∈ (expand d chain name).events) : ∃ shape chain, e = .recursion shape chain := by
  obtain ⟨v, -, -, -, rfl⟩ := exists_visit_of_mem_events he
  exact ⟨v.shape, v.chain, rfl⟩

private theorem exists_recursion_of_mem_argumentBlock {chain : List String} {name : String}
    {e : Event} (he : e ∈ (argumentBlock d docs chain name).events) :
    ∃ shape chain, e = .recursion shape chain := by
  rw [argumentBlock] at he
  split at he
  · cases he
  · split at he
    · exact ⟨name, chain, List.mem_singleton.mp he⟩
    · split at he
      · rw [Report.events_map, argumentsOf, Report.events_each, List.mem_flatMap] at he
        obtain ⟨member, -, hmember⟩ := he
        exact exists_recursion_of_mem_expand hmember
      · cases he

private theorem exists_events_operationBinding_eq (key : String) (op : Operation) :
    ∃ warnings, (∀ e ∈ warnings, ∃ shape chain, e = .recursion shape chain) ∧
      (operationBinding d docs moduleName key op).events =
        warnings ++ (operationBinding d docs moduleName key op).ifDone
          [.bindingFinished (Text.snakeCase key)] := by
  rw [operationBinding]
  split
  · exact ⟨[], by simp, rfl⟩
  · split
    · exact ⟨[], by simp, rfl⟩
    · next s _ =>
      refine ⟨(argumentSections d docs op).events, ?_, ?_⟩
      · intro e he
        rw [argumentSections] at he
        split at he
        · cases he
        · exact exists_recursion_of_mem_argumentBlock he
      · rw [operationDocumentation, Report.bind_map]
        cases h : (argumentSections d docs op).outcome <;>
          simp [Report.bind, Report.ifDone, h, Report.note, Except.map]

/-! ### The operations of a service -/

/-- The bindings of a service's operations, in order. -/
def bindingsOf (d : Description) (docs : Formatter) (moduleName : String) :
    Report (List String) :=
  Report.each (fun entry : String × Operation =>
    operationBinding d docs moduleName entry.1 entry.2) d.operations.entries

/-- What a service's operations report: one after the other, up to the first without a binding. -/
def operationEvents (d : Description) (docs : Formatter) (moduleName : String) : List Event :=
  (Report.reached (fun entry : String × Operation =>
    operationBinding d docs moduleName entry.1 entry.2) d.operations.entries).flatMap
      fun entry => (operationBinding d docs moduleName entry.1 entry.2).events

/-- Bindings as they stand in a module: each is followed by an empty line. -/
def bindingLines (bindings : List String) : String := String.join (bindings.map (· ++ "\n"))

private theorem bindingLines_append (first second : List String) :
    bindingLines (first ++ second) = bindingLines first ++ bindingLines second := by
  simp [bindingLines, String.join_append]

/-- A named service is its bindings with what stands around them. -/
theorem generate_eq (hname : moduleNameOf d.metadata chosen = .ok moduleName) :
    generate d docs chosen = (bindingsOf d docs moduleName).bind fun bindings =>
      (Report.note (.serviceFinished moduleName bindings.length)).map fun _ =>
        ⟨moduleName, moduleText d docs moduleName bindings, dispatcherText d.metadata⟩ := by
  rw [generate, hname]
  rfl

private theorem outcome_generate_eq (hname : moduleNameOf d.metadata chosen = .ok moduleName) :
    (generate d docs chosen).outcome = (bindingsOf d docs moduleName).outcome.map fun bindings =>
      ⟨moduleName, moduleText d docs moduleName bindings, dispatcherText d.metadata⟩ := by
  rw [generate_eq hname, Report.bind]
  cases (bindingsOf d docs moduleName).outcome <;> rfl

private theorem exists_outcome_generate_iff
    (hname : moduleNameOf d.metadata chosen = .ok moduleName) :
    (∃ b, (generate d docs chosen).outcome = .ok b) ↔
      ∃ units, (bindingsOf d docs moduleName).outcome = .ok units := by
  rw [outcome_generate_eq hname]
  cases (bindingsOf d docs moduleName).outcome <;> simp [Except.map]

/-- A named service fails with its operations. -/
theorem outcome_generate_eq_error_iff_bindingsOf {f : Failure}
    (hname : moduleNameOf d.metadata chosen = .ok moduleName) :
    (generate d docs chosen).outcome = .error f ↔
      (bindingsOf d docs moduleName).outcome = .error f := by
  rw [outcome_generate_eq hname]
  cases (bindingsOf d docs moduleName).outcome <;> simp [Except.map]

private theorem exists_bindingLines_of_generate {b : Bundle}
    (hname : moduleNameOf d.metadata chosen = .ok moduleName)
    (h : (generate d docs chosen).outcome = .ok b) :
    ∃ units, (bindingsOf d docs moduleName).outcome = .ok units ∧ b.moduleName = moduleName ∧
      b.dispatcher = dispatcherText d.metadata ∧
      b.bindings = moduleOpening d docs moduleName ++ bindingLines units ++
        moduleClosing moduleName := by
  rw [outcome_generate_eq hname] at h
  cases hunits : (bindingsOf d docs moduleName).outcome with
  | error f =>
    rw [hunits] at h
    cases h
  | ok units =>
    rw [hunits] at h
    cases h
    exact ⟨units, rfl, rfl, rfl, rfl⟩

private theorem ifDone_generate (hname : moduleNameOf d.metadata chosen = .ok moduleName)
    (events : List Event) :
    (generate d docs chosen).ifDone events = (bindingsOf d docs moduleName).ifDone events := by
  rw [Report.ifDone, Report.ifDone, outcome_generate_eq hname]
  cases (bindingsOf d docs moduleName).outcome <;> rfl

private theorem events_generate (hname : moduleNameOf d.metadata chosen = .ok moduleName) :
    (generate d docs chosen).events = operationEvents d docs moduleName ++
      (generate d docs chosen).ifDone [.serviceFinished moduleName d.operations.size] := by
  have hevents : (bindingsOf d docs moduleName).events = operationEvents d docs moduleName :=
    Report.events_each _ _
  rw [ifDone_generate hname, generate_eq hname, Report.bind, Report.ifDone, ← hevents]
  cases h : (bindingsOf d docs moduleName).outcome with
  | error f => simp
  | ok bindings =>
    have hcount := ((Report.outcome_each_eq_ok_iff _ _ _).mp h).length_eq
    simp [Report.note, NameTable.size, hcount]

private theorem operationBinding_withOperations (operations : NameTable Operation) (key : String)
    (op : Operation) :
    operationBinding (d.withOperations operations) docs moduleName key op =
      operationBinding d docs moduleName key op := by
  have halike : OperationsAlike (d.withOperations operations) docs d docs (key, op) (key, op) :=
    ⟨rfl, rfl, rfl, rfl, rfl, rfl, fun _ _ _ _ => .of_eq rfl, fun _ _ => .of_eq rfl, rfl⟩
  exact halike.operationBinding_eq rfl

/-- The bindings of a service are those of its first operations and those of the others. -/
theorem bindingsOf_split (operations : NameTable Operation) (n : Nat) :
    bindingsOf (d.withOperations operations) docs moduleName =
      (bindingsOf (d.withOperations (operations.take n)) docs moduleName).bind fun first =>
        (bindingsOf (d.withOperations (operations.drop n)) docs moduleName).map fun second =>
          first ++ second := by
  simp only [bindingsOf, operationBinding_withOperations]
  rw [← Report.each_append]
  exact congrArg _ (operations.entries_take_append_drop n).symm

private theorem outcome_bindingsOf_split_eq_ok_iff {operations : NameTable Operation} {n : Nat}
    {units : List String} :
    (bindingsOf (d.withOperations operations) docs moduleName).outcome = .ok units ↔
      ∃ units₁, (bindingsOf (d.withOperations (operations.take n)) docs moduleName).outcome =
          .ok units₁ ∧
        ∃ units₂, (bindingsOf (d.withOperations (operations.drop n)) docs moduleName).outcome =
            .ok units₂ ∧ units₁ ++ units₂ = units := by
  rw [bindingsOf_split operations n, Report.outcome_bind_eq_ok_iff]
  simp only [Report.outcome_map_eq_ok_iff]

private theorem outcome_bindingsOf_split_eq_error_iff {operations : NameTable Operation} {n : Nat}
    {f : Failure} :
    (bindingsOf (d.withOperations operations) docs moduleName).outcome = .error f ↔
      (bindingsOf (d.withOperations (operations.take n)) docs moduleName).outcome = .error f ∨
        ∃ units₁, (bindingsOf (d.withOperations (operations.take n)) docs moduleName).outcome =
            .ok units₁ ∧
          (bindingsOf (d.withOperations (operations.drop n)) docs moduleName).outcome =
            .error f := by
  rw [bindingsOf_split operations n, Report.outcome_bind_eq_error_iff]
  simp only [Report.outcome_map_eq_error_iff]

/-- The operations report what the first ones report and, if those are all bound, what the others
report. -/
theorem operationEvents_split (operations : NameTable Operation) (n : Nat) :
    operationEvents (d.withOperations operations) docs moduleName =
      operationEvents (d.withOperations (operations.take n)) docs moduleName ++
        (bindingsOf (d.withOperations (operations.take n)) docs moduleName).ifDone
          (operationEvents (d.withOperations (operations.drop n)) docs moduleName) := by
  have hevents : ∀ d : Description, operationEvents d docs moduleName =
      (bindingsOf d docs moduleName).events := fun _ => (Report.events_each _ _).symm
  rw [hevents, hevents, hevents, bindingsOf_split operations n, Report.ifDone, Report.bind]
  cases h : (bindingsOf (d.withOperations (operations.take n)) docs moduleName).outcome <;> simp

/-! ### The service that is split -/

section Parts

variable {operations : NameTable Operation} {n : Nat}

private theorem exists_outcome_generate_split_iff
    (hname : moduleNameOf d.metadata chosen = .ok moduleName) :
    (∃ b, (generate (d.withOperations operations) docs chosen).outcome = .ok b) ↔
      (∃ b, (generate (d.withOperations (operations.take n)) docs chosen).outcome = .ok b) ∧
        ∃ b, (generate (d.withOperations (operations.drop n)) docs chosen).outcome = .ok b := by
  have hnamed : ∀ operations, moduleNameOf (d.withOperations operations).metadata chosen =
      .ok moduleName := fun _ => hname
  rw [exists_outcome_generate_iff (hnamed _), exists_outcome_generate_iff (hnamed _),
    exists_outcome_generate_iff (hnamed _)]
  constructor
  · rintro ⟨units, hunits⟩
    obtain ⟨units₁, h₁, units₂, h₂, -⟩ := outcome_bindingsOf_split_eq_ok_iff.mp hunits
    exact ⟨⟨units₁, h₁⟩, units₂, h₂⟩
  · rintro ⟨⟨units₁, h₁⟩, units₂, h₂⟩
    exact ⟨_, outcome_bindingsOf_split_eq_ok_iff.mpr ⟨units₁, h₁, units₂, h₂, rfl⟩⟩

private theorem outcome_generate_split_eq_error_iff {f : Failure}
    (hname : moduleNameOf d.metadata chosen = .ok moduleName) :
    (generate (d.withOperations operations) docs chosen).outcome = .error f ↔
      (generate (d.withOperations (operations.take n)) docs chosen).outcome = .error f ∨
        (∃ b, (generate (d.withOperations (operations.take n)) docs chosen).outcome = .ok b) ∧
          (generate (d.withOperations (operations.drop n)) docs chosen).outcome = .error f := by
  have hnamed : ∀ operations, moduleNameOf (d.withOperations operations).metadata chosen =
      .ok moduleName := fun _ => hname
  rw [outcome_generate_eq_error_iff_bindingsOf (hnamed _),
    outcome_generate_eq_error_iff_bindingsOf (hnamed _),
    outcome_generate_eq_error_iff_bindingsOf (hnamed _), exists_outcome_generate_iff (hnamed _),
    outcome_bindingsOf_split_eq_error_iff (n := n), exists_and_right]

private theorem exists_bindingLines_of_split {b b₁ b₂ : Bundle}
    (hname : moduleNameOf d.metadata chosen = .ok moduleName)
    (h : (generate (d.withOperations operations) docs chosen).outcome = .ok b)
    (h₁ : (generate (d.withOperations (operations.take n)) docs chosen).outcome = .ok b₁)
    (h₂ : (generate (d.withOperations (operations.drop n)) docs chosen).outcome = .ok b₂) :
    (b₁.moduleName = b.moduleName ∧ b₂.moduleName = b.moduleName) ∧
    (b₁.dispatcher = b.dispatcher ∧ b₂.dispatcher = b.dispatcher) ∧
    ∃ units₁ units₂,
      (bindingsOf (d.withOperations (operations.take n)) docs moduleName).outcome = .ok units₁ ∧
      (bindingsOf (d.withOperations (operations.drop n)) docs moduleName).outcome = .ok units₂ ∧
      b₁.bindings = moduleOpening d docs moduleName ++ bindingLines units₁ ++
        moduleClosing moduleName ∧
      b₂.bindings = moduleOpening d docs moduleName ++ bindingLines units₂ ++
        moduleClosing moduleName ∧
      b.bindings = moduleOpening d docs moduleName ++ bindingLines units₁ ++
        bindingLines units₂ ++ moduleClosing moduleName := by
  have hnamed : ∀ operations, moduleNameOf (d.withOperations operations).metadata chosen =
      .ok moduleName := fun _ => hname
  have hopening : ∀ operations, moduleOpening (d.withOperations operations) docs moduleName =
      moduleOpening d docs moduleName := fun _ => rfl
  obtain ⟨units, hunits, hmodule, hdispatcher, hbindings⟩ :=
    exists_bindingLines_of_generate (hnamed _) h
  obtain ⟨units₁, hunits₁, hmodule₁, hdispatcher₁, hbindings₁⟩ :=
    exists_bindingLines_of_generate (hnamed _) h₁
  obtain ⟨units₂, hunits₂, hmodule₂, hdispatcher₂, hbindings₂⟩ :=
    exists_bindingLines_of_generate (hnamed _) h₂
  have happend : units = units₁ ++ units₂ := by
    have hsplit := outcome_bindingsOf_split_eq_ok_iff.mpr ⟨units₁, hunits₁, units₂, hunits₂, rfl⟩
    rw [hunits] at hsplit
    exact Except.ok.inj hsplit
  rw [hopening] at hbindings hbindings₁ hbindings₂
  refine ⟨⟨hmodule₁.trans hmodule.symm, hmodule₂.trans hmodule.symm⟩,
    ⟨hdispatcher₁.trans hdispatcher.symm, hdispatcher₂.trans hdispatcher.symm⟩, units₁, units₂,
    hunits₁, hunits₂, hbindings₁, hbindings₂, ?_⟩
  rw [hbindings, happend, bindingLines_append, ← String.append_assoc]

/-- The events of a service are those of its first operations, then those of the others if the
first ones are bound, and one more at the end. -/
theorem events_generate_split (hname : moduleNameOf d.metadata chosen = .ok moduleName) :
    (generate (d.withOperations operations) docs chosen).events =
      operationEvents (d.withOperations (operations.take n)) docs moduleName ++
        (generate (d.withOperations (operations.take n)) docs chosen).ifDone
          (operationEvents (d.withOperations (operations.drop n)) docs moduleName) ++
        (generate (d.withOperations operations) docs chosen).ifDone
          [.serviceFinished moduleName operations.size] := by
  have hnamed : ∀ operations, moduleNameOf (d.withOperations operations).metadata chosen =
      .ok moduleName := fun _ => hname
  rw [ifDone_generate (hnamed (operations.take n)), ← operationEvents_split operations n]
  exact events_generate (hnamed operations)

end Parts

/-- Operations are generated independently of each other and in order. If the operations of a
service are split in two, the service is generated if and only if it is generated with either part
alone; its name and its dispatcher are the same as with either part, and its bindings are those of
the first part and then those of the second, between two texts that no operation has a share in. A
failure of the first part is that of the whole, and so is a failure of the second part if the first
has none. The events are those of the first part's operations, then, if these were all bound, those
of the second part's, and at the end of a service that was generated one event that counts its
operations. The events of an operation are shapes that recur in it, and one event if it was
bound. -/
theorem generate_split (d : Description) (docs : Formatter) (chosen : Option String)
    (moduleName : String) (hname : moduleNameOf d.metadata chosen = .ok moduleName) :
    ∃ opening closing : String, ∀ (operations : NameTable Operation) (n : Nat),
      let firstPart := d.withOperations (operations.take n)
      let secondPart := d.withOperations (operations.drop n)
      let whole := generate (d.withOperations operations) docs chosen
      let first := generate firstPart docs chosen
      let second := generate secondPart docs chosen
      ((∃ b, whole.outcome = .ok b) ↔
        (∃ b, first.outcome = .ok b) ∧ ∃ b, second.outcome = .ok b) ∧
      (∀ b b₁ b₂, whole.outcome = .ok b → first.outcome = .ok b₁ → second.outcome = .ok b₂ →
        (b₁.moduleName = b.moduleName ∧ b₂.moduleName = b.moduleName) ∧
        (b₁.dispatcher = b.dispatcher ∧ b₂.dispatcher = b.dispatcher) ∧
        ∃ units₁ units₂,
          List.Forall₂ (fun entry unit =>
            (operationBinding firstPart docs moduleName entry.1 entry.2).outcome = .ok unit)
            (operations.take n).entries units₁ ∧
          List.Forall₂ (fun entry unit =>
            (operationBinding secondPart docs moduleName entry.1 entry.2).outcome = .ok unit)
            (operations.drop n).entries units₂ ∧
          b₁.bindings = opening ++ bindingLines units₁ ++ closing ∧
          b₂.bindings = opening ++ bindingLines units₂ ++ closing ∧
          b.bindings = opening ++ bindingLines units₁ ++ bindingLines units₂ ++ closing) ∧
      (∀ f, first.outcome = .error f → whole.outcome = .error f) ∧
      (∀ b f, first.outcome = .ok b → second.outcome = .error f → whole.outcome = .error f) ∧
      (whole.events = operationEvents firstPart docs moduleName ++
          first.ifDone (operationEvents secondPart docs moduleName) ++
          whole.ifDone [.serviceFinished moduleName operations.size] ∧
        first.events = operationEvents firstPart docs moduleName ++
          first.ifDone [.serviceFinished moduleName (operations.take n).size] ∧
        second.events = operationEvents secondPart docs moduleName ++
          second.ifDone [.serviceFinished moduleName (operations.drop n).size]) ∧
      ∀ part key op, ∃ warnings,
        (∀ e ∈ warnings, ∃ shape chain, e = .recursion shape chain) ∧
        (operationBinding part docs moduleName key op).events = warnings ++
          (operationBinding part docs moduleName key op).ifDone
            [.bindingFinished (Text.snakeCase key)] := by
  refine ⟨moduleOpening d docs moduleName, moduleClosing moduleName, ?_⟩
  intro operations n firstPart secondPart whole first second
  refine ⟨exists_outcome_generate_split_iff hname, ?_, ?_, ?_, ⟨events_generate_split hname,
    events_generate (d := firstPart) hname, events_generate (d := secondPart) hname⟩,
    fun _ => exists_events_operationBinding_eq⟩
  · intro b b₁ b₂ h h₁ h₂
    obtain ⟨hmodule, hdispatcher, units₁, units₂, hunits₁, hunits₂, hbindings⟩ :=
      exists_bindingLines_of_split hname h h₁ h₂
    exact ⟨hmodule, hdispatcher, units₁, units₂, (Report.outcome_each_eq_ok_iff _ _ _).mp hunits₁,
      (Report.outcome_each_eq_ok_iff _ _ _).mp hunits₂, hbindings⟩
  · intro f hf
    exact (outcome_generate_split_eq_error_iff hname).mpr (.inl hf)
  · intro b f h₁ hf
    exact (outcome_generate_split_eq_error_iff hname).mpr (.inr ⟨⟨b, h₁⟩, hf⟩)

/-- Operations of which the second one has an input that is not declared. -/
def queueOperations : NameTable Operation :=
  ((NameTable.empty.put "SendMessage" (.ofRequest "SendMessage" .postRoot)).put "CountMessages"
    { Operation.ofRequest "CountMessages" .postRoot with input := some "Filter" }).put "Purge"
      (.ofRequest "Purge" .postRoot)

/-- A service without operations and shapes. -/
def queueDescription : Description := .ofMetadata (.ofRequired .query "queue" "2012-11-05")

/-- The failure of the second operation is that of the whole service, and only the first one was
bound. -/
theorem queue_split :
    moduleNameOf queueDescription.metadata none = .ok "Queue" ∧
      (generate (queueDescription.withOperations queueOperations) id none).outcome =
        .error (.unknownShape "Filter") ∧
      (generate (queueDescription.withOperations queueOperations) id none).events =
        [.bindingFinished "send_message"] := by
  obtain ⟨opening, closing, hsplit⟩ := generate_split queueDescription id none "Queue" rfl
  obtain ⟨-, -, -, hsecond, ⟨hevents, -⟩, -⟩ := hsplit queueOperations 1
  obtain ⟨b, hfirst⟩ : ∃ b, (generate (queueDescription.withOperations
      (queueOperations.take 1)) id none).outcome = .ok b := ⟨_, rfl⟩
  have hwhole := hsecond b (.unknownShape "Filter") hfirst rfl
  exact ⟨rfl, hwhole, hevents⟩

end ApiBindings.Bindings
