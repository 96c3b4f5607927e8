import ApiBindings.Proofs.Access
import ApiBindings.Proofs.Execution

/-!
# Directories on the way

Making a directory and those above it changes a tree in one way only: where the path leads past and
nothing was, there may be a directory. If it ends well the path names a directory, and where it
names one already nothing is done.
-/

namespace ApiBindings.Files

namespace Tree

variable {t s r : Tree} {p q : Path} {place : Location}

/-- Whether a place is as it was, or a directory where nothing was on the way of a path. -/
def GrownAt (p : Path) (t s : Tree) (place : Location) : Prop :=
  s.node? place = t.node? place ∨
    t.node? place = none ∧ s.node? place = some .directory ∧ p.Passes place

/-- Whether a tree differs from an earlier one by directories on the way of a path alone. -/
def Grown (p : Path) (t s : Tree) : Prop := ∀ place, GrownAt p t s place

/-- A place may grow again. -/
theorem GrownAt.trans (h : GrownAt p t s place) (h' : GrownAt p s r place) :
    GrownAt p t r place := by
  rcases h' with hsame | ⟨hnone, hdirectory, hpasses⟩
  · rcases h with hbefore | ⟨hnone, hdirectory, hpasses⟩
    · exact .inl (hsame.trans hbefore)
    · exact .inr ⟨hnone, hsame.trans hdirectory, hpasses⟩
  · rcases h with hbefore | ⟨-, hbefore, -⟩
    · exact .inr ⟨hbefore ▸ hnone, hdirectory, hpasses⟩
    · rw [hbefore] at hnone
      cases hnone

/-- What is on the way of one path may be on the way of another. -/
theorem GrownAt.of_passes (h : GrownAt q t s place) (hqp : q.Passes place → p.Passes place) :
    GrownAt p t s place :=
  h.imp_right fun ⟨hnone, hdirectory, hpasses⟩ => ⟨hnone, hdirectory, hqp hpasses⟩

namespace Grown

/-- A tree need not grow. -/
theorem refl (p : Path) (t : Tree) : Grown p t t := fun _ => .inl rfl

/-- A tree may grow again. -/
theorem trans (h : Grown p t s) (h' : Grown p s r) : Grown p t r :=
  fun place => (h place).trans (h' place)

/-- Directories stay. -/
theorem directoriesIn (h : Grown p t s) : t.DirectoriesIn s := by
  intro place hplace
  rcases h place with hsame | ⟨hnone, -, -⟩
  · rw [hsame, hplace]
  · rw [hplace] at hnone
    cases hnone

/-- A tree grows by a new directory. -/
theorem insert (h : Call.newDirectory t p = .ok place) :
    Grown p t (t.insert place .directory) := by
  obtain ⟨rfl, hnone, parent, name, slash, hfollow⟩ := Call.newDirectory_eq_ok h
  have hplace : p.place ≠ [] := by
    rw [← place_of_follow hfollow]
    exact List.append_ne_nil_of_right_ne_nil _ (List.cons_ne_nil _ _)
  intro place'
  rw [GrownAt, node?_insert hplace]
  split
  next heq =>
    subst heq
    exact .inr ⟨hnone, rfl, p.passes_place⟩
  next => exact .inl rfl

private theorem namesDirectory_insert (h : Call.newDirectory t p = .ok place) :
    Call.namesDirectory (t.insert place .directory) p = true := by
  have hgrown := insert h
  obtain ⟨rfl, hnone, parent, name, slash, hfollow⟩ := Call.newDirectory_eq_ok h
  have hplace := place_of_follow hfollow
  rw [Target.place] at hplace
  rw [Call.namesDirectory, follow_mono hfollow hgrown.directoriesIn]
  simp only [hplace, beq_iff_eq]
  rw [node?_insert, if_pos rfl]
  rw [← hplace]
  exact List.append_ne_nil_of_right_ne_nil _ (List.cons_ne_nil _ _)

end Grown

end Tree

open Call Files.Tree Plan

variable {t : Tree} {p : Path} {inv : Tree → Prop}

/-- What is asked of making directories: that the tree grows on the way of the path, and that the
path names a directory if there is no error. -/
def MadeAt (p : Path) (answer : Except Refusal Unit) (s : Tree) : Prop :=
  answer = .ok () → p.isEmpty = false → namesDirectory s p = true

private theorem ensures_acceptDirectory (refusal : Refusal) (hinv : inv t) :
    (acceptDirectory p refusal).Ensures t inv (MadeAt p) := by
  refine Ensures.call hinv (fun s hs => absurd hs List.not_mem_nil) (Ensures.done hinv ?_)
  intro hanswer _
  change (if namesDirectory t p = true then Except.ok () else .error refusal) = .ok () at hanswer
  split at hanswer
  next hnames => exact hnames
  next => cases hanswer

/-- Making a directory either makes it or leaves the tree as it was. -/
private theorem perform_makeDirectory (t : Tree) (p : Path) :
    (∃ place, newDirectory t p = .ok place ∧
      perform t (.makeDirectory p) = (.ok (), t.insert place .directory)) ∨
    ∃ refusal, perform t (.makeDirectory p) = (.error refusal, t) := by
  cases h : newDirectory t p with
  | ok place => exact .inl ⟨place, rfl, by simp [perform, change, h]⟩
  | error refusal => exact .inr ⟨refusal, by simp [perform, change, h]⟩

private theorem ensures_made {place : Location} {s : Tree} (hgrown : Grown p t s)
    (hplace : newDirectory s p = .ok place) :
    (Plan.done (.ok ())).Ensures (s.insert place .directory) (Grown p t) (MadeAt p) :=
  Ensures.done (hgrown.trans (Grown.insert hplace)) fun _ _ => Grown.namesDirectory_insert hplace

/-- On the way of a path only directories come up, where nothing was, and in the end the path names
a directory. -/
theorem ensures_makeDirectories (p : Path) (t : Tree) :
    (makeDirectories p).Ensures t (Grown p t) (MadeAt p) := by
  induction p using makeDirectories.induct generalizing t with
  | case1 p hempty =>
    rw [makeDirectories, if_pos hempty]
    refine Ensures.done (Grown.refl p t) fun _ hnonempty => ?_
    rw [hempty] at hnonempty
    cases hnonempty
  | case2 p hempty ih =>
    rw [makeDirectories, if_neg hempty]
    refine Ensures.call (Grown.refl p t) (fun s hs => absurd hs List.not_mem_nil) ?_
    rcases perform_makeDirectory t p with ⟨place, hplace, hperform⟩ | ⟨refusal, hperform⟩
    · rw [hperform]
      exact ensures_made (Grown.refl p t) hplace
    rw [hperform]
    by_cases hmissing : refusal = .notFound
    · subst hmissing
      dsimp only
      split
      next => exact Ensures.done (Grown.refl p t) fun hanswer => by cases hanswer
      next parent hparent =>
        -- What is made on the way of the path above is made on the way of the path.
        have hparents : (makeDirectories parent).Ensures t (Grown p t) (MadeAt parent) :=
          (ih parent hparent t).mono
            (fun s hs place => (hs place).of_passes (Path.Passes.of_parent? hparent))
            fun answer s _ h => h
        refine hparents.andThen (fun refusal s _ _ hanswer => by cases hanswer) ?_
        intro _ s hs _
        refine Ensures.call hs (fun s hs => absurd hs List.not_mem_nil) ?_
        rcases perform_makeDirectory s p with ⟨place, hplace, hperform⟩ | ⟨refusal, hperform⟩
        · rw [hperform]
          exact ensures_made hs hplace
        · rw [hperform]
          exact ensures_acceptDirectory refusal hs
    · have haccept := ensures_acceptDirectory (p := p) refusal (Grown.refl p t)
      cases refusal with
      | notFound => exact absurd rfl hmissing
      | _ => exact haccept

/-- Directories are made with nothing but the calls for it. -/
theorem only_makeDirectories (p : Path) :
    (makeDirectories p).Only fun c =>
      (∃ q, c = .makeDirectory q) ∨ ∃ q, c = .isDirectory q := by
  have haccept (p : Path) (refusal : Refusal) : (acceptDirectory p refusal).Only fun c =>
      (∃ q, c = .makeDirectory q) ∨ ∃ q, c = .isDirectory q :=
    (Only.ask (.inr ⟨p, rfl⟩)).bind fun _ => .done _
  induction p using makeDirectories.induct with
  | case1 p hempty =>
    rw [makeDirectories, if_pos hempty]
    exact .done _
  | case2 p hempty ih =>
    rw [makeDirectories, if_neg hempty]
    refine (Only.ask (.inl ⟨p, rfl⟩)).bind fun answer => ?_
    rcases answer with refusal | made
    · by_cases hmissing : refusal = .notFound
      · subst hmissing
        dsimp only
        split
        next => exact .done _
        next parent hparent =>
          refine (ih parent hparent).andThen fun _ => ?_
          refine (Only.ask (.inl ⟨p, rfl⟩)).bind fun answer => ?_
          rcases answer with refusal | made
          · exact haccept p refusal
          · exact .done _
      · cases refusal with
        | notFound => exact absurd rfl hmissing
        | _ => exact haccept p _
    · exact .done _

/-- Where the path names a directory nothing is done. -/
theorem run_makeDirectories_of_namesDirectory (h : namesDirectory t p = true) :
    (makeDirectories p).run t = (.ok (), t) := by
  by_cases hempty : p.isEmpty = true
  · rw [makeDirectories, if_pos hempty]
    rfl
  · rw [makeDirectories, if_neg hempty]
    simp only [Plan.ask, Plan.bind, Plan.run, perform, change, newDirectory_of_namesDirectory h,
      acceptDirectory, h, if_true]

end ApiBindings.Files
