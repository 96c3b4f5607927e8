import ApiBindings.Proofs.Document
import ApiBindings.Proofs.Separation

/-!
# Dry runs

A run reads and generates before it writes, so what fails on the way fails with the tree as it was.
A dry run does the same up to there and then writes nothing. It fails where the run fails, and
shows what the run leaves in its files.
-/

namespace ApiBindings.Command

open Bindings Files Plan Service

/-! ### Asking for a dry run -/

/-- The same settings for a dry run. -/
def Settings.dry (s : Settings) : Settings := { s with dryRun := true }

/-- The same options with that for a dry run. -/
def Given.dry (g : Given) : Given := { g with dryRun := true }

/-- A step with the option for a dry run. -/
def Step.dry : Step → Step
  | next g => next g.dry
  | valueDue g o => valueDue g.dry o
  | finished r => finished r
  | misused => misused

variable {g : Given} {s : Settings} {arguments : List String}

private theorem Given.add?_dry (g : Given) (o : ValueOption) (value : String) :
    g.dry.add? o value = (g.add? o value).map Given.dry := by
  by_cases h : ((g.value? o).isNone && o.accepts value) = true
  · rw [add?, add?, if_pos h, if_pos]
    · rfl
    · exact h
  · rw [add?, add?, if_neg h, if_neg]
    · rfl
    · exact h

private theorem Step.adding_dry (g : Given) (o : ValueOption) (value : String) :
    Step.adding g.dry o value = (Step.adding g o value).dry := by
  rw [Step.adding, Step.adding, g.add?_dry]
  cases g.add? o value <;> rfl

private theorem letters_dry (g : Given) (cs : List Char) :
    letters g.dry cs = (letters g cs).dry := by
  fun_induction letters g cs with
  | case1 g => rfl
  | case2 g rest ih => exact ih
  | case3 => rfl
  | case4 => rfl
  | case5 g c rest _ _ _ hnone => simp [letters, hnone, Step.dry]
  | case6 g c _ _ _ o hsome => simp [letters, hsome, Step.dry]
  | case7 g c _ _ _ o value hsome => simp [letters, hsome, Step.adding_dry]
  | case8 g c _ _ _ o value _ _ hsome => simp [letters, hsome, Step.adding_dry]

private theorem word_dry (g : Given) (name : String) (value? : Option String) :
    word g.dry name value? = (word g name value?).dry ∨
      ∃ g', word g name value? = .next g' ∧ g'.dryRun = true := by
  rw [word.eq_def, word.eq_def]
  cases ValueOption.ofWord? name with
  | some o =>
    cases value? with
    | none => exact .inl rfl
    | some value => exact .inl (Step.adding_dry g o value)
  | none =>
    cases value? with
    | some value => exact .inl rfl
    | none =>
      dsimp only
      split
      · by_cases hg : g.dryRun = true
        · simp [hg, Given.dry, Step.dry]
        · refine .inr ⟨g.dry, ?_, rfl⟩
          simp [hg, Given.dry]
      all_goals exact .inl rfl

private theorem argument_dry (g : Given) (text : String) :
    argument g.dry text = (argument g text).dry ∨
      ∃ g', argument g text = .next g' ∧ g'.dryRun = true := by
  rw [argument, argument]
  split
  · exact word_dry g _ _
  · exact .inl (letters_dry g _)
  · exact .inl rfl

private theorem argument_ne_finished_run (g : Given) (text : String) (s : Settings) :
    argument g text ≠ .finished (.run s) := by
  have hadding (g : Given) (o : ValueOption) (value : String) :
      Step.adding g o value ≠ .finished (.run s) := by
    rw [Step.adding]
    split <;> simp
  have hletters (g : Given) (cs : List Char) : letters g cs ≠ .finished (.run s) := by
    fun_induction letters g cs with
    | case2 g rest ih => exact ih
    | case7 g c _ _ _ o value => exact hadding g o _
    | case8 g c _ _ _ o value => exact hadding g o _
    | _ => simp
  rw [argument]
  split
  · rw [word.eq_def]
    split
    · simp
    · exact hadding g _ _
    · simp
    · split
      · split <;> simp
      all_goals simp
  · exact hletters g _
  · simp

private theorem settings?_dry (g : Given) : g.dry.settings? = g.settings?.map Settings.dry := by
  rw [Given.settings?, Given.settings?, Option.map_map]
  rfl

private theorem requestFrom_dry (h : requestFrom g arguments = some (.run s))
    (hs : s.dryRun = false) : requestFrom g.dry arguments = some (.run s.dry) := by
  have hsettings {g : Given} (h : g.settings?.map Request.run = some (.run s)) :
      g.dry.settings?.map Request.run = some (.run s.dry) := by
    rw [settings?_dry]
    cases hg : g.settings? with
    | none => simp [hg] at h
    | some s' =>
      rw [hg] at h
      cases h
      rfl
  revert h
  fun_induction requestFrom g arguments with
  | case1 g => exact hsettings
  | case2 g rest hrest =>
    intro h
    rw [requestFrom, if_pos hrest]
    exact hsettings h
  | case3 => exact fun h => by cases h
  | case4 g text _ g' rest hargument ih =>
    intro h
    have hrest := ih h
    rcases argument_dry g text with heq | ⟨g'', heq, hdry⟩
    · have hnext : argument g.dry text = .next g'.dry := by
        rw [heq, hargument]
        rfl
      simp [requestFrom, hnext, hrest]
    · -- The option for a dry run would have led to one already.
      rw [hargument] at heq
      cases heq
      have hsame : g'.dry = g' := by simp [Given.dry, ← hdry]
      rw [hsame, h, Option.some.injEq, Request.run.injEq] at hrest
      rw [hrest] at hs
      cases hs
  | case5 g text _ rest r hargument =>
    rintro ⟨⟩
    exact absurd hargument (argument_ne_finished_run g text s)
  | case6 => exact fun h => by cases h
  | case7 => exact fun h => by cases h
  | case8 g text htext g' o value rest hargument hvalue ih =>
    intro h
    rcases argument_dry g text with heq | ⟨g'', heq, hdry⟩
    · have hdue : argument g.dry text = .valueDue g'.dry o := by
        rw [heq, hargument]
        rfl
      cases hadd : g'.add? o value with
      | none =>
        rw [hadd] at h
        cases h
      | some g'' =>
        rw [hadd] at h
        rw [requestFrom.eq_7 _ _ _ _ _ _ htext hdue, if_pos hvalue, Given.add?_dry, hadd]
        exact ih g'' h
    · rw [hargument] at heq
      cases heq
  | case9 => exact fun h => by cases h

/-- Arguments that ask for a run ask for a dry run with the option for it before them. -/
theorem request_dry (h : request arguments = some (.run s)) (hs : s.dryRun = false) :
    request ("--dry-run" :: arguments) = some (.run s.dry) := by
  have htext : "--dry-run".toList = '-' :: '-' :: "dry-run".toList := by decide
  have hsplit : splitEquals "dry-run".toList = ("dry-run", none) := by decide
  have hoption : argument .none "--dry-run" = .next Given.none.dry := by
    rw [argument, htext]
    simp only [hsplit]
    rfl
  simp [request, requestFrom, hoption, requestFrom_dry h hs]

/-! ### What comes before anything is written -/

/-- Reads the service description and the examples for it. -/
def load (s : Settings) : Plan (Except Fault Description) :=
  (readDescription s.service).andThen fun d => readExamples d s.examples

/-- What comes of a description: the notes that are printed on it, and the bundle or why there is
none. -/
def prepared (s : Settings) : Except Fault Description → String × Except Fault Bundle
  | .error fault => ("", .error fault)
  | .ok d => (openingNotes s d, (generate d id s.moduleName).outcome.mapError .generation)

/-- What is done before anything is written. -/
def prepare (s : Settings) : Plan (String × Except Fault Bundle) :=
  (load s).bind fun loaded => .done (prepared s loaded)

/-- Delivers what was prepared, or fails for want of it. -/
def deliverPrepared (s : Settings) : String × Except Fault Bundle → Plan Ending
  | (notes, .error fault) => .done (.failed notes fault)
  | (notes, .ok b) => deliver s notes b

/-- A run delivers what was prepared. -/
theorem runSettings_eq (s : Settings) : runSettings s = (prepare s).bind (deliverPrepared s) := by
  rw [runSettings, prepare, bind_assoc]
  refine congrArg (load s).bind (funext fun loaded => ?_)
  rcases loaded with fault | d
  · rfl
  · simp only [Plan.bind, prepared]
    cases (generate d id s.moduleName).outcome <;> rfl

/-- Whether a call reads a file. -/
def IsRead (c : Files.Call) : Prop := ∃ p, c = .read p

private theorem isRead_changes_nothing (c : Files.Call) (h : IsRead c) (t : Tree) :
    (c.perform t).2 = t ∧ c.halfway t = [] := by
  obtain ⟨p, rfl⟩ := h
  exact ⟨rfl, rfl⟩

/-- Nothing but reading is done before anything is written. -/
theorem only_prepare (s : Settings) : (prepare s).Only IsRead := by
  have hdescription : (readDescription s.service).Only IsRead := by
    refine (Only.ask ⟨_, rfl⟩).bind fun answer => ?_
    rcases answer with refusal | bytes
    · cases refusal <;> exact .done _
    · exact .done _
  have hexamples (d : Description) : (readExamples d s.examples).Only IsRead := by
    cases s.examples with
    | none => exact .done _
    | some path =>
      refine Only.bind ?_ fun answer => ?_
      · refine (Only.ask ⟨_, rfl⟩).bind fun answer => ?_
        cases answer <;> exact .done _
      · cases answer <;> exact .done _
  refine (hdescription.andThen hexamples).bind fun loaded => ?_
  cases loaded <;> exact .done _

private theorem ensures_prepare (s : Settings) (t : Tree) :
    (prepare s).Ensures t (· = t) fun _ r => r = t :=
  (only_prepare s).ensures_eq isRead_changes_nothing

private theorem run_prepare (s : Settings) (t : Tree) :
    ((prepare s).run t).1 = prepared s ((load s).run t).1 := by
  rw [prepare, run_bind, Plan.run]

private theorem isWord_of_prepare {t : Tree} {b : Bundle} (h : ((prepare s).run t).1.2 = .ok b) :
    IsWord b.moduleName := by
  rw [run_prepare] at h
  cases hloaded : ((load s).run t).1 with
  | error fault =>
    rw [hloaded] at h
    cases h
  | ok d =>
    rw [hloaded] at h
    simp only [prepared] at h
    cases hgenerated : (generate d id s.moduleName).outcome with
    | error failure =>
      rw [hgenerated] at h
      cases h
    | ok b' =>
      rw [hgenerated] at h
      cases h
      exact isWord_moduleName hgenerated

/-- The line that a verbose dry run has behind the others. -/
def dryRunNote : String := "Dry run mode - no files will be written\n"

/-- A dry run prepares the same, with at most one line more. -/
theorem run_prepare_dry (hs : s.dryRun = false) (t : Tree) :
    ∃ note, (note = "" ∨ note = dryRunNote) ∧
      ((prepare s.dry).run t).1 =
        (((prepare s).run t).1.1 ++ note, ((prepare s).run t).1.2) := by
  have hload : load s.dry = load s := rfl
  rw [run_prepare, run_prepare, hload]
  cases ((load s).run t).1 with
  | error fault => exact ⟨"", .inl rfl, rfl⟩
  | ok d =>
    by_cases hquiet : s.verbosity = 0
    · refine ⟨"", .inl rfl, ?_⟩
      simp [prepared, openingNotes, Settings.dry, hquiet]
    · refine ⟨dryRunNote, .inr rfl, ?_⟩
      simp [prepared, openingNotes, Settings.dry, hquiet, hs, dryRunNote, String.append_assoc]

/-! ### Runs and dry runs -/

variable {t r : Tree} {b : Bundle} {fault : Fault} {notes : String} {ending : Ending}

/-- The text that a dry run shows of a bundle. -/
def previewBundle (b : Bundle) : String :=
  preview b.bindingsFile b.bindings ++ preview b.dispatcherFile b.dispatcher

private theorem ensures_runSettings {post : Ending → Tree → Prop}
    (h : (deliverPrepared s ((prepare s).run t).1).Ensures t (· = t) post) :
    (runSettings s).Ensures t (· = t) post := by
  rw [runSettings_eq]
  exact (ensures_prepare s t).bind_of_eq h

private theorem ensures_runSettings_of_error (h : ((prepare s).run t).1 = (notes, .error fault)) :
    (runSettings s).Ensures t (· = t) fun ending _ => ending = .failed notes fault := by
  apply ensures_runSettings
  rw [h]
  exact .done rfl rfl

private theorem ensures_runSettings_dry (h : ((prepare s).run t).1 = (notes, .ok b))
    (hs : s.dryRun = true) :
    (runSettings s).Ensures t (· = t) fun ending _ => ending = ⟨0, previewBundle b, notes⟩ := by
  apply ensures_runSettings
  rw [h, deliverPrepared, deliver, if_pos hs]
  exact .done rfl rfl

private theorem run_runSettings_of_ok (h : ((prepare s).run t).1 = (notes, .ok b))
    (hs : s.dryRun = false) :
    ((runSettings s).run t).2 = ((writeFiles (bundleFiles s.output b)).run t).2 ∧
      (((runSettings s).run t).1.exit = 0 ↔
        ((writeFiles (bundleFiles s.output b)).run t).1 = .ok ()) := by
  have hrun : (runSettings s).run t = (deliver s notes b).run t := by
    rw [runSettings_eq, run_bind, (ensures_prepare s t).atEnd, h, deliverPrepared]
  rw [hrun, deliver, hs, if_neg Bool.false_ne_true, run_bind]
  generalize (writeFiles (bundleFiles s.output b)).run t = written
  rcases written with ⟨fault | _, r⟩
  · simp [Plan.run, Ending.failed]
  · simp [Plan.run]

private theorem run_of_request (h : request arguments = some (.run s)) :
    run arguments = runSettings s := by
  rw [run, h]

/-- A tree is changed only by a run that is not dry and has a bundle to deliver. -/
theorem exists_bundle_of_ne (hr : r ∈ (run arguments).states t) (hne : r ≠ t) :
    ∃ s b, request arguments = some (.run s) ∧ s.dryRun = false ∧
      ((prepare s).run t).1.2 = .ok b := by
  rw [run] at hr
  split at hr
  case h_4 s hrequest =>
    rcases hprepared : ((prepare s).run t).1 with ⟨notes, fault | b⟩
    · exact absurd ((ensures_runSettings_of_error hprepared).throughout r hr) hne
    · cases hs : s.dryRun with
      | true => exact absurd ((ensures_runSettings_dry hprepared hs).throughout r hr) hne
      | false => exact ⟨s, b, hrequest, hs, by rw [hprepared]⟩
  all_goals exact absurd (List.mem_singleton.mp hr) hne

/-- Nothing is written unless everything was generated, and a dry run shows what a run writes. Only
a run that is not dry and has generated a bundle changes the tree in any of its states. A run and
the same run with the option for a dry run fail with the same fault if there is no bundle, and the
dry run fails in no other case. If the run ends well the dry run does, and it shows the names of the
two files and what can be read from them under the output directory after the run. -/
theorem run_and_dry_run (arguments : List String) (t : Tree) :
    (∀ r ∈ (run arguments).states t, r ≠ t → ∃ s b, request arguments = some (.run s) ∧
      s.dryRun = false ∧ ((prepare s).run t).1.2 = .ok b) ∧
    ∀ s, request arguments = some (.run s) → s.dryRun = false →
      request ("--dry-run" :: arguments) = some (.run s.dry) ∧
      ∀ dryArguments, request dryArguments = some (.run s.dry) →
        (∀ fault, ((prepare s).run t).1.2 = .error fault →
          ∃ notes note, (note = "" ∨ note = dryRunNote) ∧
            ((run arguments).run t).1 = .failed notes fault ∧
            ((run dryArguments).run t).1 = .failed (notes ++ note) fault) ∧
        (((run dryArguments).run t).1.exit ≠ 0 →
          ∃ fault, ((prepare s).run t).1.2 = .error fault) ∧
        (((run arguments).run t).1.exit = 0 →
          ((run dryArguments).run t).1.exit = 0 ∧
          ∃ b : Bundle, ((prepare s).run t).1.2 = .ok b ∧
            ((run dryArguments).run t).1.stdout =
              "=== " ++ b.bindingsFile ++ " ===\n" ++ b.bindings ++ "\n\n" ++
                ("=== " ++ b.dispatcherFile ++ " ===\n" ++ b.dispatcher ++ "\n\n") ∧
            Call.readFile ((run arguments).run t).2
              ((Path.ofText s.output).join b.bindingsFile) = .ok b.bindings.toUTF8 ∧
            Call.readFile ((run arguments).run t).2
              ((Path.ofText s.output).join b.dispatcherFile) = .ok b.dispatcher.toUTF8) := by
  refine ⟨fun r hr hne => exists_bundle_of_ne hr hne, fun s h hs => ⟨request_dry h hs, ?_⟩⟩
  intro dryArguments hdry
  rw [run_of_request h, run_of_request hdry]
  obtain ⟨note, hnote, hprepareDry⟩ := run_prepare_dry hs t
  rcases hprepared : ((prepare s).run t).1 with ⟨notes, fault | b⟩
  · rw [hprepared] at hprepareDry
    have hending := (ensures_runSettings_of_error hprepared).atEnd
    have hendingDry := (ensures_runSettings_of_error hprepareDry).atEnd
    refine ⟨fun fault' hfault => ?_, fun _ => ⟨fault, rfl⟩, fun hexit => ?_⟩
    · cases hfault
      exact ⟨notes, note, hnote, hending, hendingDry⟩
    · rw [hending] at hexit
      exact absurd hexit Nat.one_ne_zero
  · rw [hprepared] at hprepareDry
    have hendingDry := (ensures_runSettings_dry hprepareDry rfl).atEnd
    refine ⟨fun fault' hfault => ?_, fun hexit => ?_, fun hexit => ?_⟩
    · cases hfault
    · rw [hendingDry] at hexit
      exact absurd rfl hexit
    · have hword := isWord_of_prepare (congrArg Prod.snd hprepared)
      obtain ⟨htree, hends⟩ := run_runSettings_of_ok hprepared hs
      have hwritten := run_eq_of_fst_eq (hends.mp hexit)
      have hbindings : (b.bindingsFile, b.bindings) ∈ b.entries := by simp [Bundle.entries]
      have hdispatcher : (b.dispatcherFile, b.dispatcher) ∈ b.entries := by simp [Bundle.entries]
      rw [hendingDry, htree]
      exact ⟨rfl, b, rfl, rfl, readFile_of_writeBundle hword hwritten hbindings,
        readFile_of_writeBundle hword hwritten hdispatcher⟩

/-- A service with nothing but its metadata. -/
def notesService : Description := .ofMetadata (.ofRequired .json "notes" "1")

/-- A directory with the description of the service alone. -/
def notesTree : Tree := (∅ : Tree).insert ["notes.json"] (.file notesService.text.toUTF8)

private theorem ofBytes_notesService :
    Description.ofBytes notesService.text.toUTF8 = .ok notesService := by
  refine Description.ofBytes_text ⟨rfl, ?_, ?_⟩ ?_
  all_goals
    intro x hx
    cases hx

private theorem run_load_of_readDescription {d : Description} {path : String}
    (hpath : s.service = path)
    (hexamples : s.examples = none) (h : (readDescription path).run t = (.ok d, r)) :
    ((load s).run t).1 = .ok d := by
  rw [load, hpath, run_andThen, h, hexamples]
  rfl

private theorem run_readDescription_notes :
    (readDescription "notes.json").run notesTree = (.ok notesService, notesTree) := by
  have hread : Call.readFile notesTree (Path.ofText "notes.json") =
      .ok notesService.text.toUTF8 :=
    Call.readFile_eq_ok ⟨[], "notes.json", rfl⟩ rfl
  rw [readDescription, run_bind]
  simp only [ask, Plan.run, Call.perform, hread, ofBytes_notesService]
  rfl

/-- The settings of a run on the notes. -/
def notesSettings : Settings := ⟨"notes.json", none, "out", none, false, 0⟩

private theorem exists_run_writeNotes {b : Bundle}
    (h : b.names = ["Notes.jl", "Notes_dispatch.jl"]) :
    ∃ r, (writeFiles (bundleFiles "out" b)).run notesTree = (.ok (), r) := by
  have hname {e : String × String} (he : e ∈ b.entries) :
      e.1 ∈ ["Notes.jl", "Notes_dispatch.jl"] := h ▸ List.mem_map_of_mem (f := Prod.fst) he
  have hnames : ∀ name ∈ ["Notes.jl", "Notes_dispatch.jl"],
      name ≠ "" ∧ name ≠ "." ∧ name ≠ ".." := by decide
  have hmade : (makeDirectories (Path.ofText "out").folder).run notesTree =
      (.ok (), notesTree.insert ["out"] .directory) := by
    rw [makeDirectories]
    rfl
  have haccepts : ∀ name ∈ ["Notes.jl", "Notes_dispatch.jl"],
      Tree.Accepts (notesTree.insert ["out"] .directory) ((Path.ofText "out").join name).staged ∧
        Tree.Accepts (notesTree.insert ["out"] .directory) ((Path.ofText "out").join name) := by
    decide
  rw [bundleFiles_eq]
  exact exists_run_writeFiles (List.cons_ne_nil _ _) (fun e he => hnames _ (hname he)) hmade
    fun e he => haccepts _ (hname he)

/-- What a dry run shows of the notes can be read after the run. -/
theorem notes_dry_run :
    ((run ["-s", "notes.json"]).run notesTree).1.exit = 0 ∧
    ((run ["-s", "notes.json", "--dry-run"]).run notesTree).1.exit = 0 ∧
    ∃ b : Bundle, b.names = ["Notes.jl", "Notes_dispatch.jl"] ∧
      ((run ["-s", "notes.json", "--dry-run"]).run notesTree).1.stdout =
        "=== " ++ b.bindingsFile ++ " ===\n" ++ b.bindings ++ "\n\n" ++
          ("=== " ++ b.dispatcherFile ++ " ===\n" ++ b.dispatcher ++ "\n\n") ∧
      Call.readFile ((run ["-s", "notes.json"]).run notesTree).2
        ((Path.ofText "out").join b.bindingsFile) = .ok b.bindings.toUTF8 ∧
      Call.readFile ((run ["-s", "notes.json"]).run notesTree).2
        ((Path.ofText "out").join b.dispatcherFile) = .ok b.dispatcher.toUTF8 := by
  have hrequest : request ["-s", "notes.json"] = some (.run notesSettings) := by decide
  have hrequestDry : request ["-s", "notes.json", "--dry-run"] = some (.run notesSettings.dry) := by
    decide
  obtain ⟨b, hgenerated, hname⟩ : ∃ b, (generate notesService id none).outcome = .ok b ∧
      b.moduleName = "Notes" := ⟨_, rfl, rfl⟩
  have hnames : b.names = ["Notes.jl", "Notes_dispatch.jl"] := by
    rw [Bundle.names, Bundle.bindingsFile, Bundle.dispatcherFile, hname]
    rfl
  have hload : ((load notesSettings).run notesTree).1 = .ok notesService :=
    run_load_of_readDescription rfl rfl run_readDescription_notes
  have hprepared : ((prepare notesSettings).run notesTree).1 = ("", .ok b) := by
    rw [run_prepare, hload]
    simp only [prepared, openingNotes, notesSettings, hgenerated]
    rfl
  obtain ⟨r, hwritten⟩ := exists_run_writeNotes hnames
  have hexit : ((run ["-s", "notes.json"]).run notesTree).1.exit = 0 := by
    rw [run_of_request hrequest]
    exact (run_runSettings_of_ok hprepared rfl).2.mpr (congrArg Prod.fst hwritten)
  have hruns := ((run_and_dry_run ["-s", "notes.json"] notesTree).2 notesSettings hrequest rfl).2
  obtain ⟨hexitDry, b', hb', hshown⟩ := (hruns _ hrequestDry).2.2 hexit
  rw [hprepared] at hb'
  cases hb'
  exact ⟨hexit, hexitDry, b, hnames, hshown⟩

end ApiBindings.Command
