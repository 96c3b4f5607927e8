import ApiBindings.Proofs.Place

/-!
# Which calls succeed

A call succeeds at the place of its path if the path can be followed there and the node at that
place is of the right kind. Where a tree has the directories of another, the same paths can be
followed, so a file that may be written in one may be written in the other.
-/

namespace ApiBindings.Files

namespace Tree

variable {t s : Tree} {p q : Path} {place place' : Location} {node : Node} {content : ByteArray}

/-! ### Nodes after a change -/

/-- What is inserted is found at its place, and everything else where it was. -/
theorem node?_insert (h : place ≠ []) :
    node? (t.insert place node) place' = if place' = place then some node else t.node? place' := by
  rw [node?, node?]
  by_cases hplace : place' = place
  · simp [hplace, h]
  · simp [hplace, Ne.symm hplace, Std.ExtTreeMap.getElem?_insert]

/-- Nothing is found at an erased place, and everything else where it was. -/
theorem node?_erase (h : place ≠ []) :
    node? (t.erase place) place' = if place' = place then none else t.node? place' := by
  rw [node?, node?]
  by_cases hplace : place' = place
  · simp [hplace, h]
  · simp [hplace, Ne.symm hplace, Std.ExtTreeMap.getElem?_erase]

/-- Whether two trees have the same directories. -/
def SameDirectories (t s : Tree) : Prop :=
  ∀ place, s.node? place = some .directory ↔ t.node? place = some .directory

/-- A file may come in place of another, or of nothing, without a change to any directory. -/
theorem sameDirectories_insert (h : place ≠ []) (hnode : t.node? place ≠ some .directory) :
    t.SameDirectories (t.insert place (.file content)) := by
  intro place'
  rw [node?_insert h]
  split
  next hplace =>
    subst hplace
    simp [hnode]
  next => rfl

/-- A file may go without a change to any directory. -/
theorem sameDirectories_erase (h : place ≠ []) (hnode : t.node? place ≠ some .directory) :
    t.SameDirectories (t.erase place) := by
  intro place'
  rw [node?_erase h]
  split
  next hplace =>
    subst hplace
    simp [hnode]
  next => rfl

namespace SameDirectories

variable {r : Tree}

/-- A tree has its own directories. -/
theorem refl (t : Tree) : t.SameDirectories t := fun _ => Iff.rfl

/-- Directories are the same either way. -/
theorem symm (h : t.SameDirectories s) : s.SameDirectories t := fun place => (h place).symm

/-- Directories stay the same along several changes. -/
theorem trans (h : t.SameDirectories s) (h' : s.SameDirectories r) : t.SameDirectories r :=
  fun place => (h' place).trans (h place)

/-- The directories of one tree are those of the other. -/
theorem directoriesIn (h : t.SameDirectories s) : t.DirectoriesIn s := fun place => (h place).mpr

end SameDirectories

/-! ### Files -/

/-- Whether a path leads to a name in a directory, with no slash behind it. -/
def Reaches (t : Tree) (p : Path) : Prop :=
  ∃ parent name, t.follow p = .ok (.entry parent name false)

/-- Whether a file can be written at a path. -/
def Accepts (t : Tree) (p : Path) : Prop := t.Reaches p ∧ t.node? p.place ≠ some .directory

/-- A name in a directory is not the root. -/
theorem Reaches.place_ne_nil (h : t.Reaches p) : p.place ≠ [] := by
  obtain ⟨parent, name, hfollow⟩ := h
  rw [← place_of_follow hfollow]
  exact List.append_ne_nil_of_right_ne_nil _ (List.cons_ne_nil _ _)

/-- What is reached is reached where there are more directories. -/
theorem Reaches.mono (h : t.Reaches p) (hts : t.DirectoriesIn s) : s.Reaches p := by
  obtain ⟨parent, name, hfollow⟩ := h
  exact ⟨parent, name, follow_mono hfollow hts⟩

/-- Where a file can be written, it can be written in any tree with the same directories. -/
theorem Accepts.congr (h : t.Accepts p) (hts : t.SameDirectories s) : s.Accepts p :=
  ⟨h.1.mono hts.directoriesIn, fun hnode => h.2 ((hts _).mp hnode)⟩

end Tree

namespace Call

open Files.Tree (place_of_follow)

variable {t s : Tree} {p q : Path} {place old new : Location} {content : ByteArray}

/-- A file is written at the place of its path, if it can be. -/
theorem writable_eq_ok_iff : writable t p = .ok place ↔ t.Accepts p ∧ place = p.place := by
  rw [writable]
  cases hfollow : t.follow p with
  | error r => simp [Except.bind, Tree.Accepts, Tree.Reaches, hfollow]
  | ok target =>
    have hplace := place_of_follow hfollow
    cases target with
    | directory place' => simp [Except.bind, Tree.Accepts, Tree.Reaches, hfollow]
    | entry parent name slash =>
      rw [Tree.Target.place] at hplace
      by_cases hnode : t.node? p.place = some .directory <;> cases slash <;>
        simp [Except.bind, Tree.Accepts, Tree.Reaches, hfollow, hplace, hnode,
          eq_comm (a := place)]

instance (t : Tree) (p : Path) : Decidable (t.Accepts p) :=
  decidable_of_iff ((writable t p).isOk = true) <| by
    cases h : writable t p with
    | ok place => exact iff_of_true rfl (writable_eq_ok_iff.mp h).1
    | error refusal =>
      refine iff_of_false (fun hok => by cases hok) fun haccepts => ?_
      rw [writable_eq_ok_iff.mpr ⟨haccepts, rfl⟩] at h
      cases h

/-- A file is renamed if it is there and can be written at its new place. -/
theorem renamable_eq_ok_iff :
    renamable t q p = .ok (old, content, new) ↔
      (t.Reaches q ∧ t.node? q.place = some (.file content) ∧ t.Accepts p) ∧
        old = q.place ∧ new = p.place := by
  rw [renamable]
  cases hsource : t.follow q with
  | error r => simp [Except.bind, Tree.Reaches, hsource]
  | ok source =>
    have hold := place_of_follow hsource
    cases htarget : t.follow p with
    | error r => simp [Except.bind, Tree.Accepts, Tree.Reaches, htarget]
    | ok target =>
      have hnew := place_of_follow htarget
      cases source with
      | directory place => simp [Except.bind, Tree.Reaches, hsource]
      | entry parent name slash =>
        cases target with
        | directory place => simp [Except.bind, Tree.Accepts, Tree.Reaches, htarget]
        | entry newParent newName newSlash =>
          rw [Tree.Target.place] at hold hnew
          simp only [Except.bind, hold, hnew]
          cases hnode : t.node? q.place with
          | none => simp
          | some node =>
            cases node with
            | directory => simp
            | file content' =>
              by_cases hdirectory : t.node? p.place = some .directory <;>
                cases slash <;> cases newSlash <;>
                  simp [Tree.Accepts, Tree.Reaches, hsource, htarget, hdirectory, and_left_comm,
                    eq_comm (a := old), eq_comm (a := new)]

/-- A file that is there can be read. -/
theorem readFile_eq_ok (h : t.Reaches p) (hnode : t.node? p.place = some (.file content)) :
    readFile t p = .ok content := by
  obtain ⟨parent, name, hfollow⟩ := h
  have hplace := place_of_follow hfollow
  rw [Tree.Target.place] at hplace
  simp [readFile, hfollow, Except.bind, hplace, hnode]

/-- A file of text is read as the text that it holds, and a file that is no text is refused. -/
theorem run_readText (h : t.Reaches p) (hnode : t.node? p.place = some (.file content)) :
    ((readText p).run t).1 =
      (String.fromUTF8? content).elim (.error (.unreadable p.text .notUtf8)) .ok := by
  rw [readText, Plan.run_bind]
  simp only [Plan.ask, Plan.run, perform, readFile_eq_ok h hnode]
  cases String.fromUTF8? content <;> rfl

example : ((readText (.ofText "a")).run ((∅ : Tree).insert ["a"] (.file ⟨#[255]⟩))).1 =
    .error (.unreadable "a" .notUtf8) := by
  decide

/-- Writing a file puts it at its place if it can be written, and else changes nothing. -/
theorem perform_write (t : Tree) (p : Path) (content : ByteArray) :
    (t.Accepts p ∧
      perform t (.write p content) = (.ok (), t.insert p.place (.file content))) ∨
    ¬t.Accepts p ∧ ∃ refusal, perform t (.write p content) = (.error refusal, t) := by
  cases h : writable t p with
  | ok place =>
    obtain ⟨haccepts, rfl⟩ := writable_eq_ok_iff.mp h
    exact .inl ⟨haccepts, by simp [perform, change, h]⟩
  | error refusal =>
    refine .inr ⟨fun haccepts => ?_, refusal, by simp [perform, change, h]⟩
    rw [writable_eq_ok_iff.mpr ⟨haccepts, rfl⟩] at h
    cases h

/-- Renaming a file that is there moves it to its new place if it can be written there, and else
changes nothing. -/
theorem perform_rename (hq : t.Reaches q) (hnode : t.node? q.place = some (.file content))
    (p : Path) :
    (t.Accepts p ∧ perform t (.rename q p) =
      (.ok (), (t.erase q.place).insert p.place (.file content))) ∨
    ¬t.Accepts p ∧ ∃ refusal, perform t (.rename q p) = (.error refusal, t) := by
  cases h : renamable t q p with
  | ok found =>
    obtain ⟨old, content', new⟩ := found
    obtain ⟨⟨-, hfound, haccepts⟩, rfl, rfl⟩ := renamable_eq_ok_iff.mp h
    rw [hnode, Option.some.injEq, Node.file.injEq] at hfound
    subst hfound
    exact .inl ⟨haccepts, by simp [perform, change, h]⟩
  | error refusal =>
    refine .inr ⟨fun haccepts => ?_, refusal, by simp [perform, change, h]⟩
    rw [renamable_eq_ok_iff.mpr ⟨⟨hq, hnode, haccepts⟩, rfl, rfl⟩] at h
    cases h

/-- A file that is there can be removed. -/
theorem perform_remove (h : t.Reaches p) (hnode : t.node? p.place = some (.file content)) :
    perform t (.remove p) = (.ok (), t.erase p.place) := by
  obtain ⟨parent, name, hfollow⟩ := h
  have hplace := place_of_follow hfollow
  rw [Tree.Target.place] at hplace
  simp [perform, change, removable, hfollow, Except.bind, hplace, hnode]

/-- A directory is made at the place of its path, where there was nothing. -/
theorem newDirectory_eq_ok (h : newDirectory t p = .ok place) :
    place = p.place ∧ t.node? place = none ∧
      ∃ parent name slash, t.follow p = .ok (.entry parent name slash) := by
  rw [newDirectory] at h
  cases hfollow : t.follow p with
  | error r => simp [hfollow, Except.bind] at h
  | ok target =>
    have hplace := place_of_follow hfollow
    cases target with
    | directory place' => simp [hfollow, Except.bind] at h
    | entry parent name slash =>
      rw [Tree.Target.place] at hplace
      simp only [hfollow, Except.bind, hplace] at h
      cases hnode : t.node? p.place with
      | some node => simp [hnode] at h
      | none =>
        simp only [hnode, Except.ok.injEq] at h
        subst h
        exact ⟨rfl, hnode, parent, name, slash, rfl⟩

/-- A path that names a directory names one where there are more directories. -/
theorem namesDirectory_mono (h : namesDirectory t p = true) (hts : t.DirectoriesIn s) :
    namesDirectory s p = true := by
  rw [namesDirectory] at h ⊢
  cases hfollow : t.follow p with
  | error r => simp [hfollow] at h
  | ok target =>
    rw [Tree.follow_mono hfollow hts]
    cases target with
    | directory place => rfl
    | entry parent name slash =>
      rw [hfollow] at h
      simp only [beq_iff_eq] at h ⊢
      exact hts _ h

/-- No directory is made where one is. -/
theorem newDirectory_of_namesDirectory (h : namesDirectory t p = true) :
    newDirectory t p = .error .alreadyExists := by
  rw [namesDirectory] at h
  rw [newDirectory]
  cases hfollow : t.follow p with
  | error r => simp [hfollow] at h
  | ok target =>
    cases target with
    | directory place => rfl
    | entry parent name slash =>
      rw [hfollow] at h
      simp only [beq_iff_eq] at h
      simp [Except.bind, h]

end Call

end ApiBindings.Files
