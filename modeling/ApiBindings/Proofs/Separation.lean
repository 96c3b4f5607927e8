import ApiBindings.Command.Run
import ApiBindings.Proofs.Bundle
import ApiBindings.Proofs.Delimiter
import ApiBindings.Proofs.Folder
import ApiBindings.Proofs.Name
import Mathlib.Data.List.Nodup

/-!
# Services side by side

A module is named by letters and digits alone, so its two files are plain names whatever name was
asked for: they end up in the output directory and nowhere else. The names of two modules, and the
hidden names under which they are written, are cut off at their first dot or underscore, so modules
with different names share none, and their files can be written in either order.
-/

namespace ApiBindings

namespace Bindings

open Files Service

/-- Whether a text is a word: some letters and digits and nothing else. -/
def IsWord (name : String) : Prop :=
  name ≠ "" ∧ ∀ c ∈ name.toList, Text.isWordChar c = true

/-- A module is named by a word, whatever name is asked for. -/
theorem isWord_moduleName {d : Description} {docs : Formatter} {chosen : Option String}
    {b : Bundle} (h : (generate d docs chosen).outcome = .ok b) : IsWord b.moduleName := by
  obtain ⟨name, bindings, hname, -, rfl⟩ := outcome_generate_eq_ok_iff.mp h
  rw [moduleNameOf] at hname
  split at hname
  · cases hname
  next hnonempty =>
    cases hname
    refine ⟨by simpa using hnonempty, fun c hc => ?_⟩
    rw [Text.moduleName, String.toList_ofList] at hc
    exact Text.isWordChar_of_mem_moduleChars hc

namespace Bundle

/-- The files of a bundle by their names. -/
def entries (b : Bundle) : List (String × String) :=
  [(b.bindingsFile, b.bindings), (b.dispatcherFile, b.dispatcher)]

/-- The names of the files of a bundle. -/
def names (b : Bundle) : List String := [b.bindingsFile, b.dispatcherFile]

end Bundle

/-- What stands behind the name of a module in the names of its files. -/
def fileEndings : List String := [".jl", "_dispatch.jl"]

variable {a b : Bundle} {name : String}

private theorem mem_names_iff :
    name ∈ b.names ↔ ∃ ending ∈ fileEndings, name = b.moduleName ++ ending := by
  simp [Bundle.names, fileEndings, Bundle.bindingsFile, Bundle.dispatcherFile]

private theorem not_isWordChar_head_ending : ∀ ending ∈ fileEndings,
    ∀ c ∈ ending.toList.head?, ¬Text.isWordChar c = true := by
  have hheads : ∀ ending ∈ fileEndings,
      ending.toList.head?.any Text.isWordChar = false := by decide
  intro ending hending c hc hword
  have hhead := hheads ending hending
  rw [Option.mem_def.mp hc, Option.any_some, hword] at hhead
  cases hhead

private theorem append_ending_inj {m n e f : String} (hm : IsWord m) (hn : IsWord n)
    (he : e ∈ fileEndings) (hf : f ∈ fileEndings) (h : m ++ e = n ++ f) : m = n ∧ e = f := by
  have hlist := congrArg String.toList h
  rw [String.toList_append, String.toList_append] at hlist
  obtain ⟨hword, hending⟩ := Text.append_inj_of_class hm.2 hn.2 (not_isWordChar_head_ending e he)
    (not_isWordChar_head_ending f hf) hlist
  exact ⟨String.toList_injective hword, String.toList_injective hending⟩

private theorem exists_head_of_mem_names (h : IsWord b.moduleName) (hname : name ∈ b.names) :
    ∃ c rest, Text.isWordChar c = true ∧ name.toList = c :: rest := by
  obtain ⟨ending, -, rfl⟩ := mem_names_iff.mp hname
  cases hword : b.moduleName.toList with
  | nil => exact absurd (String.toList_eq_nil_iff.mp hword) h.1
  | cons c rest =>
    refine ⟨c, rest ++ ending.toList, h.2 c (by simp [hword]), ?_⟩
    rw [String.toList_append, hword, List.cons_append]

private theorem ne_stagedName_of_mem_names (h : IsWord b.moduleName) (hname : name ∈ b.names)
    (other : String) : name ≠ stagedName other := by
  obtain ⟨c, rest, hc, hlist⟩ := exists_head_of_mem_names h hname
  rintro rfl
  rw [stagedName, String.toList_append, String.toList_append] at hlist
  have hdot : '.' = c := (List.cons.inj hlist).1
  subst hdot
  revert hc
  decide

/-- The name of a file is a name. -/
theorem isName_of_mem_names (h : IsWord b.moduleName) (hname : name ∈ b.names) :
    Path.IsName name := by
  obtain ⟨c, rest, hc, hlist⟩ := exists_head_of_mem_names h hname
  have hne {special : String} (hspecial : special.toList.head?.any Text.isWordChar = false) :
      name ≠ special := by
    rintro rfl
    rw [hlist, List.head?_cons, Option.any_some, hc] at hspecial
    cases hspecial
  exact ⟨hne (by decide), hne (by decide), hne (by decide)⟩

private theorem ofText_of_mem_names (h : IsWord b.moduleName) (hname : name ∈ b.names) :
    Path.ofText name = ⟨name, []⟩ := by
  obtain ⟨ending, hending, rfl⟩ := mem_names_iff.mp hname
  have hslash : ∀ ending ∈ fileEndings, '/' ∉ ending.toList := by decide
  have hnone : '/' ∉ (b.moduleName ++ ending).toList := by
    rw [String.toList_append, List.mem_append, not_or]
    refine ⟨fun hmem => ?_, hslash ending hending⟩
    exact absurd (h.2 _ hmem) (by decide)
  rw [Path.ofText, Text.splitAt_of_notMem hnone]
  simp only [String.ofList_toList, List.map_nil]

/-- The names of the files of a module are different. -/
theorem nodup_names (h : IsWord b.moduleName) : b.names.Nodup := by
  have hendings : fileEndings.Nodup := by decide
  change (fileEndings.map (b.moduleName ++ ·)).Nodup
  refine List.pairwise_map.mpr (hendings.imp_of_mem fun he hf hne heq => ?_)
  exact hne (append_ending_inj h h he hf heq).2

private theorem nodup_append_stagedName {names : List String} (hnames : names.Nodup)
    (hfiles : ∀ name ∈ names, ∃ b : Bundle, IsWord b.moduleName ∧ name ∈ b.names) :
    (names ++ names.map stagedName).Nodup := by
  refine List.nodup_append.mpr ⟨hnames, hnames.map stagedName_injective, ?_⟩
  intro x hx y hy
  obtain ⟨b, hb, hx⟩ := hfiles x hx
  obtain ⟨other, -, rfl⟩ := List.mem_map.mp hy
  exact ne_stagedName_of_mem_names hb hx other

private theorem nodup_names_append (ha : IsWord a.moduleName) (hb : IsWord b.moduleName)
    (hab : a.moduleName ≠ b.moduleName) :
    ((a.names ++ b.names) ++ (a.names ++ b.names).map stagedName).Nodup := by
  have hnames : (a.names ++ b.names).Nodup := by
    refine List.nodup_append.mpr ⟨nodup_names ha, nodup_names hb, ?_⟩
    intro x hx y hy hxy
    obtain ⟨e, he, rfl⟩ := mem_names_iff.mp hx
    obtain ⟨f, hf, rfl⟩ := mem_names_iff.mp hy
    exact hab (append_ending_inj ha hb he hf hxy).1
  refine nodup_append_stagedName hnames fun name hname => ?_
  rcases List.mem_append.mp hname with hname | hname
  · exact ⟨a, ha, hname⟩
  · exact ⟨b, hb, hname⟩

end Bindings

namespace Command

open Bindings Files Plan Service

variable {a b : Bundle} {t s r : Tree} {place : Location} {output : String}

/-- The files of a bundle belong in the folder of the output path. -/
theorem bundleFiles_eq (output : String) (b : Bundle) :
    bundleFiles output b = (Path.ofText output).outputs b.entries := rfl

private theorem bundleFiles_append (output : String) (a b : Bundle) :
    bundleFiles output a ++ bundleFiles output b =
      (Path.ofText output).outputs (a.entries ++ b.entries) := rfl

private theorem isName_entries (h : IsWord b.moduleName) : ∀ e ∈ b.entries, Path.IsName e.1 :=
  fun _ he => isName_of_mem_names h (List.mem_map_of_mem (f := Prod.fst) he)

/-- Writing a bundle changes nothing outside of the output directory but for directories on the way
to it, and there only what has the name of a file of the bundle or its hidden name. -/
theorem grownAt_of_writeBundle (h : IsWord b.moduleName)
    (hs : s ∈ (writeFiles (bundleFiles output b)).states t) (place : Location) :
    Tree.GrownAt (Path.ofText output) t s place ∨
      ∃ name ∈ b.names ++ b.names.map stagedName,
        place = (Path.ofText output).place ++ [name] := by
  by_cases hchild : ∃ name ∈ b.names ++ b.names.map stagedName,
      place = (Path.ofText output).place ++ [name]
  · exact .inr hchild
  · refine .inl ((grownAt_of_writeFiles (allIn_outputs _ (isName_entries h)) ?_ hs).of_passes
      Path.Passes.of_folder)
    intro f hf
    obtain ⟨e, he, hfe⟩ := List.mem_map.mp hf
    have hname : e.1 ∈ b.names := List.mem_map_of_mem (f := Prod.fst) he
    have hpath : f.1 = (Path.ofText output).join e.1 := by rw [← hfe]
    have hisName := isName_of_mem_names h hname
    rw [hpath, Path.place_join hisName, Path.place_staged_join hisName]
    exact ⟨fun heq => hchild ⟨e.1, List.mem_append_left _ hname, heq⟩,
      fun heq => hchild ⟨_, List.mem_append_right _ (List.mem_map_of_mem hname), heq⟩⟩

/-- The files of a bundle that is written can be read. -/
theorem readFile_of_writeBundle (hb : IsWord b.moduleName)
    (h : (writeFiles (bundleFiles output b)).run t = (.ok (), r)) {name content : String}
    (hfile : (name, content) ∈ b.entries) :
    Call.readFile r ((Path.ofText output).join name) = .ok content.toUTF8 := by
  have hnames := isName_entries hb
  have hnodup : (b.entries.map Prod.fst ++ (b.entries.map Prod.fst).map stagedName).Nodup :=
    nodup_append_stagedName (nodup_names hb) fun name hname => ⟨b, hb, hname⟩
  have hmem : ((Path.ofText output).join name, content) ∈ (Path.ofText output).outputs b.entries :=
    List.mem_map.mpr ⟨_, hfile, rfl⟩
  rw [bundleFiles_eq] at h
  exact readFile_of_writeFiles (Path.isEmpty_folder _) (allIn_outputs _ hnames)
    (pairwise_apart_outputs _ hnames hnodup) h hmem

/-- Bundles with different module names can be written in either order. -/
theorem run_writeBundle_comm (ha : IsWord a.moduleName) (hb : IsWord b.moduleName)
    (hab : a.moduleName ≠ b.moduleName)
    (h : ((writeFiles (bundleFiles output a)).andThen fun _ =>
      writeFiles (bundleFiles output b)).run t = (.ok (), r)) :
    ((writeFiles (bundleFiles output b)).andThen fun _ =>
      writeFiles (bundleFiles output a)).run t = (.ok (), r) := by
  have hnames : ∀ e ∈ a.entries ++ b.entries, Path.IsName e.1 := fun e he =>
    (List.mem_append.mp he).elim (isName_entries ha e) (isName_entries hb e)
  have hapart : ((Path.ofText output).outputs (a.entries ++ b.entries)).Pairwise Apart :=
    pairwise_apart_outputs _ hnames (nodup_names_append ha hb hab)
  rw [← writeFiles_append, bundleFiles_append] at h
  rw [← writeFiles_append]
  have hperm : (bundleFiles output a ++ bundleFiles output b).Perm
      (bundleFiles output b ++ bundleFiles output a) := List.perm_append_comm
  exact run_writeFiles_perm (Path.isEmpty_folder _) (allIn_outputs _ hnames) hapart hperm h

/-- Whatever names are asked for, the files of a generated service are in the output directory, and
services with different module names do not meet there. The names of their files are plain names.
In every state of writing a service nothing changes but that directories come up on the way to the
output directory, and what is in it under the names of the service's files and their hidden names.
These are eight different names for two services with different module names, and if one order of
writing them succeeds the other one does and leaves the same tree. -/
theorem bundles_do_not_meet {d e : Description} {docs docs' : Formatter}
    {chosen chosen' : Option String} {a b : Bundle}
    (ha : (generate d docs chosen).outcome = .ok a)
    (hb : (generate e docs' chosen').outcome = .ok b) (output : String) (t : Tree) :
    (∀ name ∈ a.names, Path.ofText name = ⟨name, []⟩ ∧ name ≠ "" ∧ name ≠ "." ∧ name ≠ "..") ∧
    (∀ s ∈ (writeFiles (bundleFiles output a)).states t, ∀ place,
      s.node? place = t.node? place ∨
      (t.node? place = none ∧ s.node? place = some .directory ∧
        (Path.ofText output).Passes place) ∨
      ∃ name ∈ a.names ++ a.names.map stagedName,
        place = (Path.ofText output).place ++ [name]) ∧
    (a.moduleName ≠ b.moduleName →
      ((a.names ++ b.names) ++ (a.names ++ b.names).map stagedName).Nodup ∧
      ∀ r, ((writeFiles (bundleFiles output a)).andThen fun _ =>
          writeFiles (bundleFiles output b)).run t = (.ok (), r) →
        ((writeFiles (bundleFiles output b)).andThen fun _ =>
          writeFiles (bundleFiles output a)).run t = (.ok (), r)) := by
  have hword := isWord_moduleName ha
  have hword' := isWord_moduleName hb
  refine ⟨fun name hname => ?_, fun s hs place => ?_, fun hab => ⟨?_, fun r h => ?_⟩⟩
  · exact ⟨ofText_of_mem_names hword hname, isName_of_mem_names hword hname⟩
  · exact or_assoc.mp (grownAt_of_writeBundle hword hs place)
  · exact nodup_names_append hword hword' hab
  · exact run_writeBundle_comm hword hword' hab h

/-- The names of the files of two services. -/
def notesAndTasks : List String :=
  ["Notes.jl", "Notes_dispatch.jl", "Tasks.jl", "Tasks_dispatch.jl"]

private theorem exists_run_notesAndTasks (h : a.names ++ b.names = notesAndTasks) :
    ∃ r, ((writeFiles (bundleFiles "gen" a)).andThen fun _ =>
      writeFiles (bundleFiles "gen" b)).run ∅ = (.ok (), r) := by
  have hname {e : String × String} (he : e ∈ a.entries ++ b.entries) : e.1 ∈ notesAndTasks :=
    h ▸ List.mem_map_of_mem (f := Prod.fst) he
  have hnames : ∀ name ∈ notesAndTasks, name ≠ "" ∧ name ≠ "." ∧ name ≠ ".." := by decide
  have hmade : (makeDirectories (Path.ofText "gen").folder).run ∅ =
      (.ok (), (∅ : Tree).insert ["gen"] .directory) := by
    rw [makeDirectories]
    rfl
  have haccepts : ∀ name ∈ notesAndTasks,
      Tree.Accepts ((∅ : Tree).insert ["gen"] .directory) ((Path.ofText "gen").join name).staged ∧
        Tree.Accepts ((∅ : Tree).insert ["gen"] .directory) ((Path.ofText "gen").join name) := by
    decide
  rw [← writeFiles_append, bundleFiles_append]
  exact exists_run_writeFiles (List.cons_ne_nil _ _) (fun e he => hnames _ (hname he)) hmade
    fun e he => haccepts _ (hname he)

/-- A name that leads out of the output directory comes down to its words. -/
theorem notes_and_tasks_do_not_meet :
    ∃ (notes tasks : Bundle) (r : Tree),
      (generate (.ofMetadata (.ofRequired .json "notes" "1")) id (some "../notes")).outcome =
        .ok notes ∧
      (generate (.ofMetadata (.ofRequired .query "tasks" "1")) id none).outcome = .ok tasks ∧
      notes.names ++ tasks.names = notesAndTasks ∧
      ((writeFiles (bundleFiles "gen" notes)).andThen fun _ =>
          writeFiles (bundleFiles "gen" tasks)).run ∅ = (.ok (), r) ∧
      ((writeFiles (bundleFiles "gen" tasks)).andThen fun _ =>
          writeFiles (bundleFiles "gen" notes)).run ∅ = (.ok (), r) := by
  obtain ⟨notes, hnotes, hname⟩ : ∃ b, (generate (.ofMetadata (.ofRequired .json "notes" "1")) id
      (some "../notes")).outcome = .ok b ∧ b.moduleName = "Notes" := ⟨_, rfl, rfl⟩
  obtain ⟨tasks, htasks, hname'⟩ : ∃ b, (generate (.ofMetadata (.ofRequired .query "tasks" "1")) id
      none).outcome = .ok b ∧ b.moduleName = "Tasks" := ⟨_, rfl, rfl⟩
  have hnames : notes.names ++ tasks.names = notesAndTasks := by
    simp only [Bundle.names, Bundle.bindingsFile, Bundle.dispatcherFile, hname, hname']
    rfl
  have hne : notes.moduleName ≠ tasks.moduleName := by
    rw [hname, hname']
    decide
  have hsecond := ((bundles_do_not_meet hnotes htasks "gen" ∅).2.2 hne).2
  obtain ⟨r, hfirst⟩ := exists_run_notesAndTasks hnames
  exact ⟨notes, tasks, r, hnotes, htasks, hnames, hfirst, hsecond r hfirst⟩

end Command

end ApiBindings
