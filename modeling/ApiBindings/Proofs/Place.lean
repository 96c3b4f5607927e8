import ApiBindings.Files.Write
import Mathlib.Data.List.DropRight

/-!
# Where paths lead

There are no links in a file tree, so where a path leads is told by its pieces alone. The tree only
decides whether one gets there, and that depends on no more than its directories: whoever gets
somewhere in a tree gets to the same place in every tree that has the same directories and others.
-/

namespace ApiBindings.Files

namespace Path

/-- A step on a way: into the directory of a name, out of a directory, or nowhere. -/
def advance (place : Location) (piece : String) : Location :=
  if isTrivial piece then place
  else if piece = ".." then place.dropLast
  else place ++ [piece]

/-- All pieces of a path. -/
def pieces (p : Path) : List String := p.first :: p.rest

/-- The place that a path leads to. -/
def place (p : Path) : Location := p.pieces.foldl advance []

/-- Whether a path leads past a place, or to it. -/
def Passes (p : Path) (place : Location) : Prop :=
  ∃ way, way <+: p.pieces ∧ way.foldl advance [] = place

/-- Whether a piece is the name of what it leads to. -/
def IsName (piece : String) : Prop := piece ≠ "" ∧ piece ≠ "." ∧ piece ≠ ".."

/-- The pieces by which a path is followed. -/
def followed (p : Path) : List String := p.pieces.filter (· ≠ "")

/-- Whether a path is followed at all, in whatever tree. -/
def IsProper (p : Path) : Prop :=
  '\x00' ∉ p.text.toList ∧ p.isEmpty = false ∧ p.text.utf8ByteSize < pathLimit

variable {p q : Path} {place : Location} {name piece : String} {pieces tail : List String}

/-! ### Steps -/

/-- A name leads into what it names. -/
theorem advance_of_isName (h : IsName name) : advance place name = place ++ [name] := by
  simp [advance, isTrivial, h.1, h.2.1, h.2.2]

private theorem foldl_advance_of_trivial (h : ∀ x ∈ tail, isTrivial x = true) :
    tail.foldl advance place = place := by
  induction tail with
  | nil => rfl
  | cons x tail ih =>
    rw [List.foldl_cons, advance, if_pos (h x (by simp))]
    exact ih fun y hy => h y (by simp [hy])

private theorem foldl_advance_dropTail :
    (Text.dropTail isTrivial pieces).foldl advance place = pieces.foldl advance place := by
  have hsplit : Text.dropTail isTrivial pieces ++ pieces.rtakeWhile isTrivial = pieces :=
    List.rdropWhile_append_rtakeWhile
  have htail : ∀ x ∈ pieces.rtakeWhile isTrivial, isTrivial x = true :=
    fun x hx => List.mem_rtakeWhile_imp hx
  conv_rhs => rw [← hsplit, List.foldl_append, foldl_advance_of_trivial htail]

private theorem foldl_advance_filter :
    (pieces.filter (· ≠ "")).foldl advance place = pieces.foldl advance place := by
  rw [List.foldl_filter]
  congr 1
  funext place piece
  by_cases h : piece = "" <;> simp [h, advance, isTrivial]

/-- Without two dots a way only leads further in. -/
theorem prefix_foldl_advance (h : ".." ∉ pieces) : place <+: pieces.foldl advance place := by
  induction pieces generalizing place with
  | nil => exact List.prefix_rfl
  | cons piece pieces ih =>
    simp only [List.mem_cons, not_or] at h
    have hstep : place <+: advance place piece := by
      rw [advance, if_neg (Ne.symm h.1)]
      split
      · exact List.prefix_rfl
      · exact List.prefix_append ..
    exact hstep.trans (ih h.2)

/-- Without two dots a path leads past no place but those above its own. -/
theorem Passes.isPrefix (h : p.Passes place) (hp : ".." ∉ p.pieces) : place <+: p.place := by
  obtain ⟨way, ⟨others, hway⟩, rfl⟩ := h
  rw [Path.place, ← hway, List.foldl_append]
  apply prefix_foldl_advance
  intro hmem
  exact hp (hway ▸ List.mem_append_right way hmem)

/-- A path leads past the place it leads to. -/
theorem passes_place (p : Path) : p.Passes p.place := ⟨_, List.prefix_rfl, rfl⟩

/-! ### The directory of a path -/

/-- The first pieces of a path lead where they lead on its way. -/
theorem place_restrict {rest : List String} :
    (p.restrict rest).place = (p.first :: rest).foldl advance [] := by
  simp only [restrict]
  split
  next h =>
    rw [List.foldl_cons, ← foldl_advance_dropTail, h.2, h.1]
    rfl
  next => simp only [place, Path.pieces, List.foldl_cons, foldl_advance_dropTail]

/-- What a path that leads nowhere leads past, every path leads past. -/
theorem Passes.of_trivial (h : ∀ x ∈ q.pieces, isTrivial x = true)
    (hpasses : q.Passes place) : p.Passes place := by
  obtain ⟨way, hway, rfl⟩ := hpasses
  refine ⟨[], List.nil_prefix, ?_⟩
  rw [foldl_advance_of_trivial fun x hx => h x (hway.subset hx)]
  rfl

private theorem trivial_root : ∀ x ∈ root.pieces, isTrivial x = true := by decide

private theorem trivial_here : ∀ x ∈ here.pieces, isTrivial x = true := by decide

/-- What the first pieces of a path lead past, the path leads past. -/
theorem Passes.of_restrict {rest : List String} (hrest : rest <+: p.rest)
    (h : (p.restrict rest).Passes place) : p.Passes place := by
  simp only [restrict] at h
  split at h
  · exact Passes.of_trivial trivial_root h
  · obtain ⟨way, hway, hplace⟩ := h
    have hkept : Text.dropTail isTrivial rest <+: p.rest :=
      (List.rdropWhile_prefix isTrivial rest).trans hrest
    exact ⟨way, hway.trans (List.cons_prefix_cons.mpr ⟨rfl, hkept⟩), hplace⟩

private theorem steps_prefix (p : Path) : p.steps <+: p.rest :=
  List.rdropWhile_prefix isTrivial p.rest

private theorem dropLast_steps_prefix (p : Path) : p.steps.dropLast <+: p.rest :=
  (List.dropLast_prefix _).trans p.steps_prefix

/-- What the path above leads past, the path leads past. -/
theorem Passes.of_parent? (hq : p.parent? = some q) (h : q.Passes place) : p.Passes place := by
  rw [parent?] at hq
  split at hq
  · split at hq
    · cases hq
    · cases hq
      exact Passes.of_trivial (by decide) h
  · cases hq
    exact h.of_restrict p.dropLast_steps_prefix

/-- The first pieces of a path are some path. -/
theorem isEmpty_restrict {rest : List String} : (p.restrict rest).isEmpty = false := by
  simp only [restrict]
  split
  · rfl
  next h =>
    rw [not_and_or] at h
    rcases h with h | h <;> simp [isEmpty, h]

/-- The directory of a file is where relative paths start, if the path has but one piece. -/
theorem directory_of_steps_eq_nil (h : p.steps = []) : p.directory = here := by
  rw [directory, parent?, if_pos h]
  split_ifs <;> rfl

/-- The directory of a file is what the pieces before its name lead to. -/
theorem directory_of_steps_ne_nil (h : p.steps ≠ []) :
    p.directory = p.restrict p.steps.dropLast := by
  simp [directory, parent?, if_neg h, isEmpty_restrict]

/-- What the directory of a file leads past, the path leads past. -/
theorem Passes.of_directory (h : p.directory.Passes place) : p.Passes place := by
  by_cases hsteps : p.steps = []
  · rw [directory_of_steps_eq_nil hsteps] at h
    exact Passes.of_trivial trivial_here h
  · rw [directory_of_steps_ne_nil hsteps] at h
    exact h.of_restrict p.dropLast_steps_prefix

/-- Without two dots in a path there are none in its directory. -/
theorem notMem_pieces_directory (h : ".." ∉ p.pieces) : ".." ∉ p.directory.pieces := by
  by_cases hsteps : p.steps = []
  · rw [directory_of_steps_eq_nil hsteps]
    decide
  · rw [directory_of_steps_ne_nil hsteps]
    simp only [restrict]
    split
    · decide
    · have hkept : Text.dropTail isTrivial p.steps.dropLast <+: p.rest :=
        (List.rdropWhile_prefix isTrivial _).trans p.dropLast_steps_prefix
      intro hmem
      exact h ((List.cons_prefix_cons.mpr ⟨rfl, hkept⟩).subset hmem)

/-- A path that ends in a file's name leads to that name in its directory. -/
theorem place_of_fileName? (h : p.fileName? = some name) :
    IsName name ∧ p.place = p.directory.place ++ [name] := by
  have hplace : p.place = p.steps.foldl advance (advance [] p.first) := by
    rw [place, pieces, List.foldl_cons, steps, foldl_advance_dropTail]
  by_cases hsteps : p.steps = []
  · rw [fileName?, hsteps] at h
    simp only [List.getLast?_nil, Option.ite_none_left_eq_some, not_or, Option.some.injEq] at h
    obtain ⟨hname, rfl⟩ := h
    have hisName : IsName p.first := hname
    refine ⟨hisName, ?_⟩
    rw [hplace, hsteps, directory_of_steps_eq_nil hsteps, List.foldl_nil,
      advance_of_isName hisName]
    rfl
  · rw [fileName?, List.getLast?_eq_some_getLast hsteps] at h
    simp only [Option.ite_none_left_eq_some, Option.some.injEq] at h
    obtain ⟨hdots, rfl⟩ := h
    have hnontrivial := List.rdropWhile_last_not isTrivial p.rest hsteps
    have hisName : IsName (p.steps.getLast hsteps) := by
      simp only [isTrivial, Bool.or_eq_true, beq_iff_eq, not_or] at hnontrivial
      exact ⟨hnontrivial.1, hnontrivial.2, hdots⟩
    refine ⟨hisName, ?_⟩
    rw [hplace, directory_of_steps_ne_nil hsteps, place_restrict]
    conv_lhs => rw [← List.dropLast_append_getLast hsteps, List.foldl_append]
    rw [List.foldl_cons, List.foldl_nil, advance_of_isName hisName, List.foldl_cons]

/-! ### Files in a directory -/

/-- A file in a directory is at its name there. -/
theorem place_join (h : IsName name) : (p.join name).place = p.place ++ [name] := by
  rw [← advance_of_isName h, join]
  split
  next hempty =>
    simp only [isEmpty, Bool.and_eq_true, String.isEmpty_iff, List.isEmpty_iff] at hempty
    simp [place, pieces, hempty.1, hempty.2, advance, isTrivial]
  next =>
    split
    next hslash =>
      have hrest : p.rest = p.rest.dropLast ++ [""] :=
        (List.dropLast_append_getLast? "" hslash).symm
      simp only [place, pieces, List.foldl_cons, List.foldl_append, List.foldl_nil]
      conv_rhs => rw [hrest, List.foldl_append]
      rfl
    next =>
      simp [place, pieces]

end Path

/-! ### Getting there -/

namespace Tree

/-- The place of a target. -/
def Target.place : Target → Location
  | .directory place => place
  | .entry parent name _ => parent ++ [name]

/-- Whether every directory of a tree is also one of another. -/
def DirectoriesIn (t s : Tree) : Prop :=
  ∀ place, t.node? place = some .directory → s.node? place = some .directory

/-- A tree has its own directories. -/
theorem DirectoriesIn.refl (t : Tree) : t.DirectoriesIn t := fun _ h => h

variable {t s : Tree} {p : Path} {start place : Location} {piece last : String} {slash : Bool}
  {target : Target} {pieces : List String}

private theorem enter_eq_ok (h : t.enter start piece = .ok place) (hpiece : piece ≠ "") :
    place = Path.advance start piece := by
  rw [enter] at h
  split_ifs at h with hdot hdots
  · cases h
    simp [Path.advance, Path.isTrivial, hdot]
  · cases h
    simp [Path.advance, Path.isTrivial, hdots]
  · rw [Path.advance_of_isName ⟨hpiece, hdot, hdots⟩]
    cases hnode : t.node? (start ++ [piece]) with
    | none => simp [hnode] at h
    | some node =>
      cases node with
      | file => simp [hnode] at h
      | directory => simpa [hnode, eq_comm] using h

/-- A directory that is entered can be entered where there are more directories. -/
theorem enter_mono (h : t.enter start piece = .ok place) (hts : t.DirectoriesIn s) :
    s.enter start piece = .ok place := by
  rw [enter] at h ⊢
  split_ifs at h ⊢
  · exact h
  · exact h
  · cases hnode : t.node? (start ++ [piece]) with
    | none => simp [hnode] at h
    | some node =>
      cases node with
      | file => simp [hnode] at h
      | directory =>
        rw [hnode] at h
        rw [hts _ hnode]
        exact h

private theorem foldlM_enter_eq_ok (h : pieces.foldlM t.enter start = .ok place)
    (hpieces : "" ∉ pieces) : place = pieces.foldl Path.advance start := by
  induction pieces generalizing start with
  | nil =>
    cases h
    rfl
  | cons piece pieces ih =>
    simp only [List.mem_cons, not_or] at hpieces
    rw [List.foldlM_cons] at h
    cases hfirst : t.enter start piece with
    | error r =>
      rw [hfirst] at h
      cases h
    | ok next =>
      rw [hfirst] at h
      rw [List.foldl_cons, ← enter_eq_ok hfirst (Ne.symm hpieces.1)]
      exact ih h hpieces.2

private theorem foldlM_enter_mono (h : pieces.foldlM t.enter start = .ok place)
    (hts : t.DirectoriesIn s) : pieces.foldlM s.enter start = .ok place := by
  induction pieces generalizing start with
  | nil => exact h
  | cons piece pieces ih =>
    rw [List.foldlM_cons] at h ⊢
    cases hfirst : t.enter start piece with
    | error r =>
      rw [hfirst] at h
      cases h
    | ok next =>
      rw [hfirst] at h
      rw [enter_mono hfirst hts]
      exact ih h

/-- What a last piece leads to from the directory before it. -/
inductive EndsAt (parent : Location) (last : String) (slash : Bool) : Target → Prop where
  | self (h : last = ".") : EndsAt parent last slash (.directory parent)
  | above (h : last = "..") : EndsAt parent last slash (.directory parent.dropLast)
  | entry (h : Path.IsName last) (hlength : last.utf8ByteSize ≤ nameLimit) :
    EndsAt parent last slash (.entry parent last slash)

private theorem EndsAt.place_eq (h : EndsAt place last slash target) :
    target.place = Path.advance place last := by
  cases h with
  | self h => simp [Target.place, Path.advance, Path.isTrivial, h]
  | above h => simp [Target.place, Path.advance, Path.isTrivial, h]
  | entry h => rw [Path.advance_of_isName h, Target.place]

/-- A last piece is looked at only if it is a name. -/
theorem endsAt_iff {parent : Location} (hlast : last ≠ "") :
    EndsAt parent last slash target ↔
      (if last = "." then Except.ok (.directory parent)
      else if last = ".." then .ok (.directory parent.dropLast)
      else if nameLimit < last.utf8ByteSize then .error Refusal.nameTooLong
      else .ok (.entry parent last slash)) = .ok target := by
  constructor
  · rintro (rfl | rfl | ⟨⟨-, hdot, hdots⟩, hlength⟩)
    · rfl
    · rfl
    · rw [if_neg hdot, if_neg hdots, if_neg (Nat.not_lt.mpr hlength)]
  · intro h
    split_ifs at h with hdot hdots hlength <;> cases h
    · exact .self hdot
    · exact .above hdots
    · exact .entry ⟨hlast, hdot, hdots⟩ (Nat.not_lt.mp hlength)

/-- A path can be followed if it is a proper one and one gets to the directory before its last
piece. -/
theorem follow_eq_ok_iff :
    t.follow p = .ok target ↔
      p.IsProper ∧
      ((p.followed = [] ∧ target = .directory []) ∨
        ∃ parent last, p.followed.getLast? = some last ∧
          p.followed.dropLast.foldlM t.enter [] = .ok parent ∧
          EndsAt parent last (p.rest.getLast? == some "") target) := by
  by_cases hproper : p.IsProper
  · have hfollow : t.follow p = p.followed.getLast?.elim (.ok (.directory [])) fun last =>
        (p.followed.dropLast.foldlM t.enter []).bind fun parent =>
          if last = "." then .ok (.directory parent)
          else if last = ".." then .ok (.directory parent.dropLast)
          else if nameLimit < last.utf8ByteSize then .error .nameTooLong
          else .ok (.entry parent last (p.rest.getLast? == some "")) := by
      have hnul : p.text.toList.contains '\x00' = false := by simpa using hproper.1
      simp only [follow, hnul, hproper.2.1, Nat.not_le.mpr hproper.2.2, Path.followed, Path.pieces,
        Bool.false_eq_true, if_false]
      generalize (List.filter (fun x => decide (x ≠ "")) (p.first :: p.rest)).getLast? = last?
      cases last? <;> rfl
    rw [hfollow]
    cases hlast : p.followed.getLast? with
    | none =>
      rw [List.getLast?_eq_none_iff] at hlast
      simp [hlast, hproper, eq_comm]
    | some last =>
      have hne : p.followed ≠ [] := by
        intro heq
        simp [heq] at hlast
      have hname : last ≠ "" := by
        have hmem := List.mem_of_getLast? hlast
        simp only [Path.followed, List.mem_filter, decide_eq_true_eq] at hmem
        exact hmem.2
      cases hparent : p.followed.dropLast.foldlM t.enter [] with
      | error r => simp [Except.bind, hne]
      | ok parent => simp [Except.bind, hne, hproper, endsAt_iff hname]
  · refine iff_of_false (fun h => hproper ?_) fun h => hproper h.1
    simp only [follow] at h
    split_ifs at h with hnul hempty hlength
    exact ⟨by simpa using hnul, by simpa using hempty, Nat.not_le.mp hlength⟩

/-- A path that can be followed in a tree leads to the same in one with more directories. -/
theorem follow_mono (h : t.follow p = .ok target) (hts : t.DirectoriesIn s) :
    s.follow p = .ok target := by
  rw [follow_eq_ok_iff] at h ⊢
  obtain ⟨hproper, hroot | ⟨parent, last, hlast, hparent, hends⟩⟩ := h
  · exact ⟨hproper, .inl hroot⟩
  · exact ⟨hproper, .inr ⟨parent, last, hlast, foldlM_enter_mono hparent hts, hends⟩⟩

/-- Following a path ends where it leads. -/
theorem place_of_follow (h : t.follow p = .ok target) : target.place = p.place := by
  have hplace : p.place = p.followed.foldl Path.advance [] := Path.foldl_advance_filter.symm
  have hnonempty : "" ∉ p.followed := by simp [Path.followed]
  obtain ⟨-, ⟨hroot, rfl⟩ | ⟨parent, last, hlast, hparent, hends⟩⟩ := follow_eq_ok_iff.mp h
  · rw [hplace, hroot]
    rfl
  · have hbefore := foldlM_enter_eq_ok hparent fun hmem => hnonempty (List.dropLast_subset _ hmem)
    rw [hplace, hends.place_eq, ← List.dropLast_append_getLast? last hlast, List.foldl_append,
      hbefore]
    rfl

end Tree

end ApiBindings.Files
