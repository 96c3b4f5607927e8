import ApiBindings.Proofs.Replacement
import Mathlib.Data.List.Pairwise

/-!
# Files of one folder

Files that are written into one folder need the same directories, which are made with the first of
them. The others only replace files in it, so files under different names do not meet: the order in
which they are written makes no difference, and each is found with its content in the end.
-/

namespace ApiBindings.Files

open Files.Tree Plan Call

namespace Path

variable {p q : Path} {name : String} {place : Location}

/-- The directory of every file that is joined to a path. -/
def folder (p : Path) : Path := if p.isEmpty then here else p.restrict p.rest

/-- A folder is some path. -/
theorem isEmpty_folder (p : Path) : p.folder.isEmpty = false := by
  rw [folder]
  split
  · rfl
  · exact isEmpty_restrict

private theorem place_folder (p : Path) : p.folder.place = p.place := by
  rw [folder]
  split
  next h =>
    simp only [isEmpty, Bool.and_eq_true, String.isEmpty_iff, List.isEmpty_iff] at h
    simp [place, pieces, here, h.1, h.2, advance, isTrivial]
  next => exact place_restrict

/-- What a folder leads past, the path leads past. -/
theorem Passes.of_folder (h : p.folder.Passes place) : p.Passes place := by
  rw [folder] at h
  split at h
  · exact .of_trivial (by decide) h
  · exact h.of_restrict List.prefix_rfl

private theorem exists_join_eq (hp : p.isEmpty = false) (name : String) :
    ∃ before, p.join name = ⟨p.first, before ++ [name]⟩ ∧
      Text.dropTail isTrivial before = Text.dropTail isTrivial p.rest := by
  by_cases hslash : p.rest.getLast? = some ""
  · refine ⟨p.rest.dropLast, by simp [join, hp, hslash], ?_⟩
    conv_rhs => rw [← List.dropLast_append_getLast? "" hslash]
    exact (List.rdropWhile_concat_pos isTrivial p.rest.dropLast "" rfl).symm
  · exact ⟨p.rest, by simp [join, hp, hslash], rfl⟩

private theorem steps_concat {before : List String} (h : IsName name) {first : String} :
    (Path.mk first (before ++ [name])).steps = before ++ [name] :=
  List.rdropWhile_concat_neg isTrivial before name (by simp [isTrivial, h.1, h.2.1])

/-- A joined path ends in the name. -/
theorem fileName?_join (h : IsName name) : (p.join name).fileName? = some name := by
  cases hp : p.isEmpty with
  | true => simp [join, hp, fileName?, steps, Text.dropTail, h.1, h.2.1, h.2.2]
  | false =>
    obtain ⟨before, hjoin, -⟩ := exists_join_eq hp name
    rw [hjoin, fileName?, steps_concat h, List.getLast?_concat]
    exact if_neg h.2.2

/-- The directory of a joined path does not depend on the name. -/
theorem directory_join (h : IsName name) : (p.join name).directory = p.folder := by
  cases hp : p.isEmpty with
  | true =>
    have hsteps : (Path.mk name []).steps = [] := rfl
    simp [join, hp, folder, directory_of_steps_eq_nil hsteps]
  | false =>
    obtain ⟨before, hjoin, hbefore⟩ := exists_join_eq hp name
    have hsteps : (Path.mk p.first (before ++ [name])).steps ≠ [] := by
      rw [steps_concat h]
      exact List.append_ne_nil_of_right_ne_nil _ (List.cons_ne_nil _ _)
    rw [hjoin, directory_of_steps_ne_nil hsteps, steps_concat h, List.dropLast_concat, folder, hp]
    simp only [restrict, hbefore, Bool.false_eq_true, if_false]

/-- The hidden file of a joined path is where the hidden name is in the folder. -/
theorem place_staged_join (h : IsName name) :
    (p.join name).staged.place = p.place ++ [stagedName name] := by
  rw [place_staged (fileName?_join h), directory_join h, place_folder]

end Path

/-- A file to be written: its path and its content. -/
abbrev Output : Type := Path × String

variable {t s r : Tree} {place : Location} {folder : Path} {f g : Output}
  {files files' : List Output}

namespace Path

/-- The files of some names and contents that belong in the folder of a path. -/
def outputs (p : Path) (entries : List (String × String)) : List Output :=
  entries.map fun e => (p.join e.1, e.2)

end Path

/-! ### Replaced files -/

namespace Tree

/-- Whether a file and its hidden file can be written. -/
def Takes (t : Tree) (f : Output) : Prop := t.Accepts f.1.staged ∧ t.Accepts f.1

/-- The tree in which files are replaced one after the other. -/
def replaceAll (t : Tree) (files : List Output) : Tree :=
  files.foldl (fun s f => s.replace f.1 f.2) t

/-- A file can be written in any tree with the same directories. -/
theorem Takes.congr (h : t.Takes f) (hts : t.SameDirectories s) : s.Takes f :=
  ⟨h.1.congr hts, h.2.congr hts⟩

private theorem Takes.sameDirectories (h : t.Takes f) : t.SameDirectories (t.replace f.1 f.2) := by
  have herase := sameDirectories_erase h.1.1.place_ne_nil h.1.2
  exact herase.trans (sameDirectories_insert h.2.1.place_ne_nil (h.2.congr herase).2)

private theorem sameDirectories_replaceAll (h : ∀ f ∈ files, t.Takes f) :
    t.SameDirectories (t.replaceAll files) := by
  induction files generalizing t with
  | nil => exact .refl t
  | cons f rest ih =>
    have hfirst := (h f (by simp)).sameDirectories
    exact hfirst.trans (ih fun g hg => (h g (by simp [hg])).congr hfirst)

private theorem node?_replaceAll_of_forall_ne (h : ∀ f ∈ files, t.Takes f)
    (hplace : ∀ f ∈ files, place ≠ f.1.place ∧ place ≠ f.1.staged.place) :
    (t.replaceAll files).node? place = t.node? place := by
  induction files generalizing t with
  | nil => rfl
  | cons f rest ih =>
    have hfirst := h f (by simp)
    obtain ⟨htarget, hstaged⟩ := hplace f (by simp)
    have hrest : ∀ g ∈ rest, (t.replace f.1 f.2).Takes g :=
      fun g hg => (h g (by simp [hg])).congr hfirst.sameDirectories
    change (replaceAll (t.replace f.1 f.2) rest).node? place = _
    rw [ih hrest fun g hg => hplace g (by simp [hg]), node?_replace hfirst.1 hfirst.2,
      if_neg htarget, if_neg hstaged]

end Tree

/-! ### Files that do not meet -/

/-- Whether neither of two files is the other or the other's hidden file, nor their hidden files
the same. -/
structure Apart (f g : Output) : Prop where
  place_ne : f.1.place ≠ g.1.place
  place_ne_staged : f.1.place ≠ g.1.staged.place
  staged_ne_place : f.1.staged.place ≠ g.1.place
  staged_ne : f.1.staged.place ≠ g.1.staged.place

/-- Files that do not meet do not meet the other way round. -/
theorem Apart.symm (h : Apart f g) : Apart g f where
  place_ne := h.place_ne.symm
  place_ne_staged := h.staged_ne_place.symm
  staged_ne_place := h.place_ne_staged.symm
  staged_ne := h.staged_ne.symm

instance : Std.Symm Apart := ⟨fun _ _ => Apart.symm⟩

namespace Tree

private theorem getElem?_replace (t : Tree) (p : Path) (content : String) (place : Location) :
    (t.replace p content)[place]? =
      if p.place = place then some (.file content.toUTF8)
      else if p.staged.place = place then none else t[place]? := by
  simp only [replace, Std.ExtTreeMap.getElem?_insert, Std.ExtTreeMap.getElem?_erase,
    Std.LawfulEqCmp.compare_eq_iff_eq]

/-- Files that do not meet can be replaced in either order. -/
theorem replace_comm (h : Apart f g) (t : Tree) :
    (t.replace f.1 f.2).replace g.1 g.2 = (t.replace g.1 g.2).replace f.1 f.2 := by
  ext place : 1
  simp only [getElem?_replace]
  -- Only the four places of the files matter, and they differ from each other.
  by_cases hf : f.1.place = place
  · subst hf
    simp [h.place_ne.symm, h.place_ne_staged.symm]
  by_cases hfstaged : f.1.staged.place = place
  · subst hfstaged
    simp [hf, h.staged_ne_place.symm]
  · simp [hf, hfstaged]

/-- Files that do not meet can be replaced in any order. -/
theorem replaceAll_perm (h : files.Pairwise Apart) (hperm : files.Perm files') (t : Tree) :
    t.replaceAll files = t.replaceAll files' := by
  refine hperm.foldl_eq' (fun f hf g hg s => ?_) t
  by_cases hfg : f = g
  · rw [hfg]
  · exact replace_comm (h.forall hf hg hfg) s

/-- Of files that do not meet each has its content in the end. -/
theorem node?_replaceAll (h : ∀ f ∈ files, t.Takes f) (hapart : files.Pairwise Apart)
    (hf : f ∈ files) : (t.replaceAll files).node? f.1.place = some (.file f.2.toUTF8) := by
  induction files generalizing t with
  | nil => cases hf
  | cons g rest ih =>
    have hfirst := h g (by simp)
    have hrest : ∀ f ∈ rest, (t.replace g.1 g.2).Takes f :=
      fun f hf => (h f (by simp [hf])).congr hfirst.sameDirectories
    rw [List.pairwise_cons] at hapart
    rcases List.mem_cons.mp hf with rfl | hf
    · have hkept := node?_replaceAll_of_forall_ne hrest fun g hg =>
        ⟨(hapart.1 g hg).place_ne, (hapart.1 g hg).place_ne_staged⟩
      change (replaceAll (t.replace f.1 f.2) rest).node? f.1.place = _
      rw [hkept, node?_replace hfirst.1 hfirst.2, if_pos rfl]
    · exact ih hrest hapart.2 hf

end Tree

/-- Different names have different hidden names. -/
theorem stagedName_injective : Function.Injective stagedName := by
  intro a b h
  have hlist := congrArg String.toList h
  simp only [stagedName, String.toList_append, List.append_cancel_left_eq,
    List.append_cancel_right_eq] at hlist
  exact String.toList_injective hlist

/-- Files under different names do not meet, if no name is the hidden one of another either. -/
theorem pairwise_apart_outputs {entries : List (String × String)} (p : Path)
    (hnames : ∀ e ∈ entries, Path.IsName e.1)
    (hnodup : (entries.map Prod.fst ++ (entries.map Prod.fst).map stagedName).Nodup) :
    (p.outputs entries).Pairwise Apart := by
  obtain ⟨hdistinct, -, hhidden⟩ := List.nodup_append.mp hnodup
  have hneStaged {a b : String × String} (ha : a ∈ entries) (hb : b ∈ entries) :
      a.1 ≠ stagedName b.1 :=
    hhidden _ (List.mem_map_of_mem ha) _ (List.mem_map_of_mem (List.mem_map_of_mem hb))
  have hlast {a b : String} (hab : a ≠ b) : p.place ++ [a] ≠ p.place ++ [b] :=
    fun h => hab (List.cons.inj (List.append_cancel_left h)).1
  rw [Path.outputs, List.pairwise_map]
  refine (List.pairwise_map.mp hdistinct).imp_of_mem fun {a b} ha hb hab => ?_
  have hplace {e : String × String} (he : e ∈ entries) := Path.place_join (p := p) (hnames e he)
  have hstaged {e : String × String} (he : e ∈ entries) :=
    Path.place_staged_join (p := p) (hnames e he)
  constructor
  · rw [hplace ha, hplace hb]
    exact hlast hab
  · rw [hplace ha, hstaged hb]
    exact hlast (hneStaged ha hb)
  · rw [hstaged ha, hplace hb]
    exact hlast (hneStaged hb ha).symm
  · rw [hstaged ha, hstaged hb]
    exact hlast fun h => hab (stagedName_injective h)

/-! ### Writing them -/

/-- Whether all files belong directly in a folder. -/
def AllIn (folder : Path) (files : List Output) : Prop :=
  ∀ f ∈ files, f.1.directory = folder ∧ f.1.fileName? ≠ none

/-- What is joined to a path belongs in its folder. -/
theorem allIn_outputs {entries : List (String × String)} (p : Path)
    (hnames : ∀ e ∈ entries, Path.IsName e.1) : AllIn p.folder (p.outputs entries) := by
  intro f hf
  obtain ⟨e, he, rfl⟩ := List.mem_map.mp hf
  refine ⟨Path.directory_join (hnames e he), ?_⟩
  rw [Path.fileName?_join (hnames e he)]
  exact Option.some_ne_none _

private theorem run_writeFiles_of_namesDirectory (hfolder : namesDirectory t folder = true)
    (hfiles : AllIn folder files) :
    (writeFiles files).run t = (.ok (), r) ↔
      (∀ f ∈ files, t.Takes f) ∧ r = t.replaceAll files := by
  induction files generalizing t with
  | nil => simp [writeFiles, run, replaceAll, eq_comm]
  | cons f rest ih =>
    obtain ⟨hdirectory, hname⟩ := hfiles f (by simp)
    have hrest : AllIn folder rest := fun g hg => hfiles g (by simp [hg])
    have hfirst (s : Tree) : (writeFile f.1 f.2).run t = (.ok (), s) ↔
        t.Takes f ∧ s = t.replace f.1 f.2 := by
      rw [run_writeFile_eq_ok_iff, hdirectory, run_makeDirectories_of_namesDirectory hfolder]
      simp [hname, Takes, and_assoc]
    have hnext (htakes : t.Takes f) := ih
      (namesDirectory_mono hfolder htakes.sameDirectories.directoriesIn) hrest
    rw [writeFiles, run_andThen_eq_ok_iff]
    constructor
    · rintro ⟨_, s, hwrite, hwrites⟩
      obtain ⟨htakes, rfl⟩ := (hfirst s).mp hwrite
      obtain ⟨hall, rfl⟩ := (hnext htakes).mp hwrites
      refine ⟨fun g hg => ?_, rfl⟩
      rcases List.mem_cons.mp hg with rfl | hg
      · exact htakes
      · exact (hall g hg).congr htakes.sameDirectories.symm
    · rintro ⟨hall, rfl⟩
      have htakes := hall f (by simp)
      refine ⟨(), _, (hfirst _).mpr ⟨htakes, rfl⟩, (hnext htakes).mpr ⟨fun g hg => ?_, rfl⟩⟩
      exact (hall g (by simp [hg])).congr htakes.sameDirectories

/-- Files are written into a folder exactly if it is made and each of them can be written there, and
they are replaced then. -/
theorem run_writeFiles_eq_ok_iff (hfolder : folder.isEmpty = false) (hfiles : AllIn folder files)
    (hne : files ≠ []) :
    (writeFiles files).run t = (.ok (), r) ↔
      ∃ s, (makeDirectories folder).run t = (.ok (), s) ∧
        (∀ f ∈ files, s.Takes f) ∧ r = s.replaceAll files := by
  obtain ⟨f, rest, rfl⟩ := List.exists_cons_of_ne_nil hne
  obtain ⟨hdirectory, -⟩ := hfiles f (by simp)
  have hnamed {s : Tree} (hmade : (makeDirectories folder).run t = (.ok (), s)) :
      namesDirectory s folder = true := by
    have hpost := (ensures_makeDirectories folder t).atEnd
    rw [hmade] at hpost
    exact hpost rfl hfolder
  -- Once the folder is made, the first file is written as if it had been there all along.
  have hfirst (q : Tree) : (writeFile f.1 f.2).run t = (.ok (), q) ↔
      ∃ s, (makeDirectories folder).run t = (.ok (), s) ∧
        (writeFile f.1 f.2).run s = (.ok (), q) := by
    simp only [run_writeFile_eq_ok_iff, hdirectory]
    constructor
    · rintro ⟨hname, s, hmade, hs⟩
      exact ⟨s, hmade, hname, s, run_makeDirectories_of_namesDirectory (hnamed hmade), hs⟩
    · rintro ⟨s, hmade, hname, s', hsame, hs⟩
      rw [run_makeDirectories_of_namesDirectory (hnamed hmade)] at hsame
      cases hsame
      exact ⟨hname, s, hmade, hs⟩
  have hwrites : (writeFiles (f :: rest)).run t = (.ok (), r) ↔
      ∃ s, (makeDirectories folder).run t = (.ok (), s) ∧
        (writeFiles (f :: rest)).run s = (.ok (), r) := by
    rw [writeFiles]
    simp only [run_andThen_eq_ok_iff, hfirst]
    constructor
    · rintro ⟨_, q, ⟨s, hmade, hwrite⟩, hrest⟩
      exact ⟨s, hmade, (), q, hwrite, hrest⟩
    · rintro ⟨s, hmade, _, q, hwrite, hrest⟩
      exact ⟨(), q, ⟨s, hmade, hwrite⟩, hrest⟩
  rw [hwrites]
  refine exists_congr fun s => and_congr_right fun hmade => ?_
  exact run_writeFiles_of_namesDirectory (hnamed hmade) hfiles

/-- Files can be written into a folder that can be made and accepts them. -/
theorem exists_run_writeFiles {p : Path} {entries : List (String × String)} (hne : entries ≠ [])
    (hnames : ∀ e ∈ entries, Path.IsName e.1)
    (hmade : (makeDirectories p.folder).run t = (.ok (), s))
    (haccepts : ∀ e ∈ entries, s.Accepts (p.join e.1).staged ∧ s.Accepts (p.join e.1)) :
    ∃ r, (writeFiles (p.outputs entries)).run t = (.ok (), r) := by
  have hne' : p.outputs entries ≠ [] := fun h => hne (List.map_eq_nil_iff.mp h)
  refine ⟨_, (run_writeFiles_eq_ok_iff p.isEmpty_folder (allIn_outputs p hnames) hne').mpr
    ⟨s, hmade, fun f hf => ?_, rfl⟩⟩
  obtain ⟨e, he, rfl⟩ := List.mem_map.mp hf
  exact haccepts e he

/-- Writing files and then others is writing them all. -/
theorem writeFiles_append (files files' : List Output) :
    writeFiles (files ++ files') = (writeFiles files).andThen fun _ => writeFiles files' := by
  induction files with
  | nil => rfl
  | cons f rest ih => rw [List.cons_append, writeFiles, writeFiles, ih, andThen_assoc]

/-- Files of a folder that do not meet can be written in any order. -/
theorem run_writeFiles_perm (hfolder : folder.isEmpty = false) (hfiles : AllIn folder files)
    (hapart : files.Pairwise Apart) (hperm : files.Perm files')
    (h : (writeFiles files).run t = (.ok (), r)) : (writeFiles files').run t = (.ok (), r) := by
  by_cases hne : files = []
  · rw [hne, List.nil_perm] at hperm
    rwa [hperm, ← hne]
  · have hfiles' : AllIn folder files' := fun f hf => hfiles f (hperm.mem_iff.mpr hf)
    have hne' : files' ≠ [] := fun h => hne (List.perm_nil.mp (h ▸ hperm))
    rw [run_writeFiles_eq_ok_iff hfolder hfiles hne] at h
    rw [run_writeFiles_eq_ok_iff hfolder hfiles' hne']
    obtain ⟨s, hmade, htakes, rfl⟩ := h
    exact ⟨s, hmade, fun f hf => htakes f (hperm.mem_iff.mpr hf), replaceAll_perm hapart hperm s⟩

/-- Of the files of a folder that do not meet each can be read with its content in the end. -/
theorem readFile_of_writeFiles (hfolder : folder.isEmpty = false) (hfiles : AllIn folder files)
    (hapart : files.Pairwise Apart) (h : (writeFiles files).run t = (.ok (), r)) {p : Path}
    {content : String} (hf : (p, content) ∈ files) : readFile r p = .ok content.toUTF8 := by
  obtain ⟨s, -, htakes, rfl⟩ :=
    (run_writeFiles_eq_ok_iff hfolder hfiles (List.ne_nil_of_mem hf)).mp h
  have hreaches := (htakes _ hf).2.1.mono (sameDirectories_replaceAll htakes).directoriesIn
  exact readFile_eq_ok hreaches (node?_replaceAll htakes hapart hf)

/-- A place where neither a file nor a hidden file belongs is as it was in every state of writing
files into a folder, but for directories on the way. -/
theorem grownAt_of_writeFiles (hfiles : AllIn folder files)
    (hplace : ∀ f ∈ files, place ≠ f.1.place ∧ place ≠ f.1.staged.place)
    (hs : s ∈ (writeFiles files).states t) : GrownAt folder t s place := by
  induction files generalizing t with
  | nil =>
    rw [writeFiles, states, List.mem_singleton] at hs
    exact .inl (hs ▸ rfl)
  | cons f rest ih =>
    obtain ⟨htarget, hstaged⟩ := hplace f (by simp)
    have hfirst {s : Tree} (hs : s ∈ (writeFile f.1 f.2).states t) : GrownAt folder t s place := by
      cases writtenAt_of_writeFile hs place with
      | kept h => exact .inl h
      | target h => exact absurd h htarget
      | removed h => exact absurd h hstaged
      | staged h => exact absurd h hstaged
      | onWay hpasses hnone hnode =>
        rw [(hfiles f (by simp)).1] at hpasses
        exact .inr ⟨hnone, hnode, hpasses⟩
    rw [writeFiles, mem_states_andThen] at hs
    rcases hs with hs | ⟨_, -, hs⟩
    · exact hfirst hs
    · have hrest := ih (fun g hg => hfiles g (by simp [hg]))
        (fun g hg => hplace g (by simp [hg])) hs
      exact (hfirst (mem_states_run _ _)).trans hrest

end ApiBindings.Files
