import ApiBindings.Proofs.Growth

/-!
# Writing a file as a whole

A file is written under a hidden name beside its own and then renamed. So in every state its place
holds what it held before or the whole new content, whatever call is the last; and but for the
hidden file and the directories on the way nothing else is ever touched.
-/

namespace ApiBindings.Files

private theorem length_stagedName (name : String) : (stagedName name).length = name.length + 5 := by
  have hdot : (".tmp" : String).length = 4 := by decide
  have htmp : ("." : String).length = 1 := by decide
  rw [stagedName, String.length_append, String.length_append, hdot, htmp]
  omega

/-- The hidden name is a name. -/
theorem isName_stagedName (name : String) : Path.IsName (stagedName name) := by
  have hlength := length_stagedName name
  refine ⟨?_, ?_, ?_⟩ <;> intro h <;> rw [h] at hlength
  · have : ("" : String).length = 0 := by decide
    omega
  · have : ("." : String).length = 1 := by decide
    omega
  · have : (".." : String).length = 2 := by decide
    omega

private theorem stagedName_ne (name : String) : stagedName name ≠ name := by
  intro h
  have hlength := length_stagedName name
  rw [h] at hlength
  omega

namespace Path

variable {p : Path} {name : String}

/-- The hidden file that stands in for the file of a path while it is written. -/
def staged (p : Path) : Path := p.directory.join (stagedName (p.fileName?.getD ""))

/-- The hidden file stands beside the file. -/
theorem place_staged (h : p.fileName? = some name) :
    p.staged.place = p.directory.place ++ [stagedName name] := by
  rw [staged, h, place_join (isName_stagedName _)]
  rfl

private theorem place_staged_ne (h : p.fileName? = some name) : p.staged.place ≠ p.place := by
  rw [place_staged h, (place_of_fileName? h).2]
  intro heq
  exact stagedName_ne name (List.cons.inj (List.append_cancel_left heq)).1

end Path

open Files.Tree Plan Call

variable {t s r : Tree} {p : Path} {name content : String} {place : Location}

/-! ### Once the directory is there -/

/-- Writes the hidden file and renames it, or removes it again. -/
def overwrite (p : Path) (content : String) : Plan (Except FileFault Unit) :=
  .call (.write p.staged content.toUTF8) fun
    | .error refusal => .done (.error (.unwritable p.staged.text refusal))
    | .ok () => .call (.rename p.staged p) fun
      | .ok () => .done (.ok ())
      | .error refusal => .call (.remove p.staged) fun _ =>
        .done (.error (.unwritable p.text refusal))

/-- A file is written as a whole by making its directory and overwriting it. -/
theorem writeFile_eq (h : p.fileName? = some name) (content : String) :
    writeFile p content =
      (blame .unwritable p.directory (makeDirectories p.directory)).andThen fun () =>
        overwrite p content := by
  have hstaged : p.directory.join (stagedName name) = p.staged := by simp [Path.staged, h]
  rw [writeFile, h]
  dsimp only
  rw [hstaged]
  congr 1
  funext made
  change Plan.call _ _ = Plan.call _ _
  congr 1
  funext written
  rcases written with refusal | written
  · rfl
  · change Plan.call _ _ = Plan.call _ _
    congr 1
    funext renamed
    cases renamed <;> rfl

namespace Tree

/-- The tree in which a file has its new content and nothing is left under its hidden name. -/
def replace (t : Tree) (p : Path) (content : String) : Tree :=
  (t.erase p.staged.place).insert p.place (.file content.toUTF8)

/-- The tree in which the hidden file has some content. -/
def stage (t : Tree) (p : Path) (content : ByteArray) : Tree :=
  t.insert p.staged.place (.file content)

private theorem erase_stage (t : Tree) (p : Path) (content : ByteArray) :
    (t.stage p content).erase p.staged.place = t.erase p.staged.place := by
  ext place : 1
  simp only [stage, Std.ExtTreeMap.getElem?_erase, Std.ExtTreeMap.getElem?_insert]
  split <;> rfl

end Tree

/-- What overwriting a file comes to: its states, its calls with their answers, its result and the
tree after it. The hidden file is not written, or the file is replaced, or the hidden file is
removed because it could not be renamed. -/
inductive Overwriting (p : Path) (content : String) (t : Tree) :
    List Tree → List Answered → Except FileFault Unit → Tree → Prop where
  | refused (refusal : Refusal) (h : ¬t.Accepts p.staged) :
    Overwriting p content t [t, t] [⟨.write p.staged content.toUTF8, .error refusal⟩]
      (.error (.unwritable p.staged.text refusal)) t
  | replaced (hstaged : t.Accepts p.staged) (h : t.Accepts p) :
    Overwriting p content t
      (t :: halfway t (.write p.staged content.toUTF8) ++
        [t.stage p content.toUTF8, t.replace p content])
      [⟨.write p.staged content.toUTF8, .ok ()⟩, ⟨.rename p.staged p, .ok ()⟩]
      (.ok ()) (t.replace p content)
  | withdrawn (refusal : Refusal) (hstaged : t.Accepts p.staged) (h : ¬t.Accepts p) :
    Overwriting p content t
      (t :: halfway t (.write p.staged content.toUTF8) ++
        [t.stage p content.toUTF8, t.stage p content.toUTF8, t.erase p.staged.place])
      [⟨.write p.staged content.toUTF8, .ok ()⟩, ⟨.rename p.staged p, .error refusal⟩,
        ⟨.remove p.staged, .ok ()⟩]
      (.error (.unwritable p.text refusal)) (t.erase p.staged.place)

private theorem Tree.Accepts.sameDirectories_stage (h : t.Accepts p.staged) (content : ByteArray) :
    t.SameDirectories (t.stage p content) :=
  sameDirectories_insert h.1.place_ne_nil h.2

private theorem halfway_write_of_not_accepts (h : ¬t.Accepts p) (content : ByteArray) :
    halfway t (.write p content) = [] := by
  cases hwritable : writable t p with
  | error refusal => simp [halfway, hwritable]
  | ok place => exact absurd (writable_eq_ok_iff.mp hwritable).1 h

private theorem halfway_rename (t : Tree) (p q : Path) : halfway t (.rename p q) = [] := rfl

private theorem halfway_remove (t : Tree) (p : Path) : halfway t (.remove p) = [] := rfl

/-- Overwriting a file comes to one of three things. -/
theorem overwriting (p : Path) (content : String) (t : Tree) :
    Overwriting p content t ((overwrite p content).states t) ((overwrite p content).asked t)
      ((overwrite p content).run t).1 ((overwrite p content).run t).2 := by
  rcases perform_write t p.staged content.toUTF8 with ⟨hstaged, hwrite⟩ | ⟨hstaged, refusal, hwrite⟩
  · change _ = (Except.ok (), t.stage p content.toUTF8) at hwrite
    have hsame := hstaged.sameDirectories_stage content.toUTF8
    have hreaches : (t.stage p content.toUTF8).Reaches p.staged :=
      hstaged.1.mono hsame.directoriesIn
    have hnode : (t.stage p content.toUTF8).node? p.staged.place =
        some (.file content.toUTF8) := by
      rw [stage, node?_insert hstaged.1.place_ne_nil, if_pos rfl]
    rcases perform_rename hreaches hnode p with ⟨haccepts, hrename⟩ | ⟨haccepts, refusal, hrename⟩
    · rw [erase_stage] at hrename
      simp only [overwrite, states, asked, run, hwrite, hrename, halfway_rename, List.cons_append,
        List.nil_append]
      exact .replaced hstaged (haccepts.congr hsame.symm)
    · have hremove := perform_remove hreaches hnode
      rw [erase_stage] at hremove
      simp only [overwrite, states, asked, run, hwrite, hrename, hremove, halfway_rename,
        halfway_remove, List.cons_append, List.nil_append]
      exact .withdrawn refusal hstaged fun h => haccepts (h.congr hsame)
  · simp only [overwrite, states, asked, run, hwrite, halfway_write_of_not_accepts hstaged,
      List.cons_append, List.nil_append]
    exact .refused refusal hstaged

/-! ### What may be seen of it -/

/-- What a place holds in a state of writing a file: what it held before, at the place of the file
its content, under the hidden name nothing or the first bytes of the content, and on the way a
directory where nothing was. -/
inductive WrittenAt (p : Path) (content : String) (t s : Tree) (place : Location) : Prop where
  | kept (h : s.node? place = t.node? place)
  | target (h : place = p.place) (hnode : s.node? place = some (.file content.toUTF8))
  | removed (h : place = p.staged.place) (hnode : s.node? place = none)
  | staged (h : place = p.staged.place) (n : Nat)
    (hnode : s.node? place = some (.file (content.toUTF8.extract 0 n)))
  | onWay (hpasses : p.directory.Passes place) (hnone : t.node? place = none)
    (hnode : s.node? place = some .directory)

private theorem WrittenAt.of_grownAt (h : GrownAt p.directory t s place)
    (hwritten : WrittenAt p content s r place) : WrittenAt p content t r place := by
  cases hwritten with
  | kept hkept =>
    rcases h with hsame | ⟨hnone, hdirectory, hpasses⟩
    · exact .kept (hkept.trans hsame)
    · exact .onWay hpasses hnone (hkept.trans hdirectory)
  | target hplace hnode => exact .target hplace hnode
  | removed hplace hnode => exact .removed hplace hnode
  | staged hplace n hnode => exact .staged hplace n hnode
  | onWay hpasses hnone hnode =>
    rcases h with hsame | ⟨-, hdirectory, -⟩
    · exact .onWay hpasses (hsame ▸ hnone) hnode
    · rw [hdirectory] at hnone
      cases hnone

private theorem writtenAt_stage (hstaged : t.Accepts p.staged) (content : String) (n : Nat)
    (place : Location) :
    WrittenAt p content t (t.stage p (content.toUTF8.extract 0 n)) place := by
  by_cases hplace : place = p.staged.place
  · refine .staged hplace n ?_
    rw [stage, node?_insert hstaged.1.place_ne_nil, if_pos hplace]
  · refine .kept ?_
    rw [stage, node?_insert hstaged.1.place_ne_nil, if_neg hplace]

private theorem writtenAt_erase (hstaged : t.Accepts p.staged) (place : Location) :
    WrittenAt p content t (t.erase p.staged.place) place := by
  by_cases hplace : place = p.staged.place
  · refine .removed hplace ?_
    rw [node?_erase hstaged.1.place_ne_nil, if_pos hplace]
  · refine .kept ?_
    rw [node?_erase hstaged.1.place_ne_nil, if_neg hplace]

/-- A replaced file is found at its place, and everywhere else nothing but the hidden file is
missing. -/
theorem node?_replace (hstaged : t.Accepts p.staged) (h : t.Accepts p) (content : String)
    (place : Location) : (t.replace p content).node? place =
      if place = p.place then some (.file content.toUTF8)
      else if place = p.staged.place then none else t.node? place := by
  rw [replace, node?_insert h.1.place_ne_nil, node?_erase hstaged.1.place_ne_nil]

private theorem writtenAt_replace (hstaged : t.Accepts p.staged) (h : t.Accepts p)
    (place : Location) : WrittenAt p content t (t.replace p content) place := by
  have hnode := node?_replace hstaged h content place
  split_ifs at hnode with htarget hplace
  · exact .target htarget hnode
  · exact .removed hplace hnode
  · exact .kept hnode

private theorem writtenAt_halfway (hstaged : t.Accepts p.staged)
    (hs : s ∈ halfway t (.write p.staged content.toUTF8)) (place : Location) :
    WrittenAt p content t s place := by
  have hwritable : writable t p.staged = .ok p.staged.place :=
    writable_eq_ok_iff.mpr ⟨hstaged, rfl⟩
  simp only [halfway, hwritable, List.mem_map] at hs
  obtain ⟨n, -, rfl⟩ := hs
  exact writtenAt_stage hstaged content n place

namespace Overwriting

variable {passed : List Tree} {calls : List Answered} {result : Except FileFault Unit}
  {after : Tree}

/-- In every state every place holds what it may. -/
theorem writtenAt (h : Overwriting p content t passed calls result after) (hs : s ∈ passed)
    (place : Location) : WrittenAt p content t s place := by
  have hstart : WrittenAt p content t t place := .kept rfl
  have hstage (hstaged : t.Accepts p.staged) :
      WrittenAt p content t (t.stage p content.toUTF8) place := by
    have hwhole := writtenAt_stage hstaged content content.toUTF8.size place
    rwa [ByteArray.extract_zero_size] at hwhole
  cases h with
  | refused refusal hstaged =>
    have hsame : s = t := by simpa using hs
    exact hsame ▸ hstart
  | replaced hstaged haccepts =>
    simp only [List.cons_append, List.mem_cons, List.mem_append, List.not_mem_nil, or_false] at hs
    rcases hs with rfl | hs | rfl | rfl
    · exact hstart
    · exact writtenAt_halfway hstaged hs place
    · exact hstage hstaged
    · exact writtenAt_replace hstaged haccepts place
  | withdrawn refusal hstaged haccepts =>
    simp only [List.cons_append, List.mem_cons, List.mem_append, List.not_mem_nil, or_false] at hs
    rcases hs with rfl | hs | rfl | rfl | rfl
    · exact hstart
    · exact writtenAt_halfway hstaged hs place
    · exact hstage hstaged
    · exact hstage hstaged
    · exact writtenAt_erase hstaged place

private theorem result_eq_ok_iff (h : Overwriting p content t passed calls result after) :
    result = .ok () ∧ after = s ↔
      t.Accepts p.staged ∧ t.Accepts p ∧ s = t.replace p content := by
  cases h with
  | refused refusal hstaged => simp [hstaged]
  | replaced hstaged haccepts => simp [hstaged, haccepts, eq_comm]
  | withdrawn refusal hstaged haccepts => simp [haccepts]

private theorem node?_of_error (h : Overwriting p content t passed calls result after)
    {fault : FileFault} (hresult : result = .error fault) (hne : p.staged.place ≠ p.place) :
    after.node? p.place = t.node? p.place := by
  cases h with
  | refused => rfl
  | replaced => cases hresult
  | withdrawn refusal hstaged haccepts =>
    rw [node?_erase hstaged.1.place_ne_nil, if_neg hne.symm]

private theorem node?_of_asked (h : Overwriting p content t passed calls result after)
    {refusal : Refusal} (hcall : ⟨.rename p.staged p, .error refusal⟩ ∈ calls) :
    after.node? p.staged.place = none := by
  cases h with
  | refused => simp at hcall
  | replaced => simp at hcall
  | withdrawn refusal hstaged haccepts => rw [node?_erase hstaged.1.place_ne_nil, if_pos rfl]

end Overwriting

/-! ### With the directories on the way -/

private theorem run_blame (fault : String → Refusal → FileFault)
    (plan : Plan (Except Refusal Unit)) :
    (blame fault p plan).run t = ((plan.run t).1.mapError (fault p.text), (plan.run t).2) := by
  rw [blame, run_bind]
  rfl

private theorem mem_states_blame {fault : String → Refusal → FileFault}
    {plan : Plan (Except Refusal Unit)} :
    s ∈ (blame fault p plan).states t ↔ s ∈ plan.states t := by
  rw [blame, mem_states_bind, states, List.mem_singleton, or_iff_left_iff_imp]
  rintro rfl
  exact mem_states_run plan t

private theorem asked_blame (fault : String → Refusal → FileFault)
    (plan : Plan (Except Refusal Unit)) : (blame fault p plan).asked t = plan.asked t := by
  rw [blame, asked_bind, asked, List.append_nil]

/-- Writing a file ends where its directories are refused, or as overwriting it does. -/
theorem run_writeFile (h : p.fileName? = some name) (content : String) (t : Tree) :
    (writeFile p content).run t =
      match (makeDirectories p.directory).run t with
      | (.error refusal, s) => (.error (.unwritable p.directory.text refusal), s)
      | (.ok (), s) => (overwrite p content).run s := by
  rw [writeFile_eq h, run_andThen, run_blame]
  rcases (makeDirectories p.directory).run t with ⟨refusal | made, s⟩ <;> rfl

private theorem writeFile_of_fileName?_eq_none (h : p.fileName? = none) (content : String) :
    writeFile p content = .done (.error (.noFileName p.text)) := by
  rw [writeFile, h]

/-- A file is written exactly if its directories are made, and both it and the hidden file can be
written there. -/
theorem run_writeFile_eq_ok_iff (content : String) :
    (writeFile p content).run t = (.ok (), r) ↔
      p.fileName? ≠ none ∧ ∃ s, (makeDirectories p.directory).run t = (.ok (), s) ∧
        s.Accepts p.staged ∧ s.Accepts p ∧ r = s.replace p content := by
  cases h : p.fileName? with
  | none => simp [writeFile_of_fileName?_eq_none h, run]
  | some name =>
    rw [run_writeFile h]
    rcases (makeDirectories p.directory).run t with ⟨refusal | made, s⟩
    · simp
    · have hresult := (overwriting p content s).result_eq_ok_iff (s := r)
      simpa [Prod.ext_iff] using hresult

/-- In every state of writing a file every place holds what it may. -/
theorem writtenAt_of_writeFile (hs : s ∈ (writeFile p content).states t) (place : Location) :
    WrittenAt p content t s place := by
  cases h : p.fileName? with
  | none =>
    rw [writeFile_of_fileName?_eq_none h, states, List.mem_singleton] at hs
    exact hs ▸ .kept rfl
  | some name =>
    have hgrown := (ensures_makeDirectories p.directory t).throughout
    rw [writeFile_eq h, mem_states_andThen, mem_states_blame, run_blame] at hs
    rcases hs with hs | ⟨made, -, hs⟩
    · exact .of_grownAt (hgrown s hs place) (.kept rfl)
    · have hmade := hgrown _ (mem_states_run _ _) place
      exact .of_grownAt hmade ((overwriting p content _).writtenAt hs place)

/-- A file that is written has its content, and nothing is left under its hidden name. -/
theorem node?_of_writeFile (h : (writeFile p content).run t = (.ok (), s)) :
    s.node? p.place = some (.file content.toUTF8) ∧ s.node? p.staged.place = none := by
  obtain ⟨hname, made, -, hstaged, haccepts, rfl⟩ := (run_writeFile_eq_ok_iff content).mp h
  obtain ⟨name, hname⟩ := Option.ne_none_iff_exists'.mp hname
  rw [node?_replace hstaged haccepts, node?_replace hstaged haccepts, if_pos rfl,
    if_neg (Path.place_staged_ne hname), if_pos rfl]
  exact ⟨rfl, rfl⟩

/-- A file that is not written stays as it was, unless there was none and a directory came up in its
place. -/
theorem grownAt_of_writeFile {fault : FileFault}
    (h : (writeFile p content).run t = (.error fault, s)) :
    GrownAt p.directory t s p.place := by
  cases hname : p.fileName? with
  | none =>
    rw [writeFile_of_fileName?_eq_none hname, run, Prod.mk.injEq] at h
    exact .inl (h.2 ▸ rfl)
  | some name =>
    have hgrown := (ensures_makeDirectories p.directory t).throughout _ (mem_states_run _ _) p.place
    rw [run_writeFile hname] at h
    generalize (makeDirectories p.directory).run t = made at h hgrown
    rcases made with ⟨refusal | made, r⟩
    · cases h
      exact hgrown
    · have hkept := (overwriting p content r).node?_of_error (congrArg Prod.fst h)
        (Path.place_staged_ne hname)
      rw [congrArg Prod.snd h] at hkept
      rcases hgrown with hsame | ⟨hnone, hdirectory, hpasses⟩
      · exact .inl (hkept.trans hsame)
      · exact .inr ⟨hnone, hkept.trans hdirectory, hpasses⟩

private theorem node?_of_rename_refused {refusal : Refusal}
    (h : ⟨.rename p.staged p, .error refusal⟩ ∈ (writeFile p content).asked t) :
    ((writeFile p content).run t).2.node? p.staged.place = none := by
  cases hname : p.fileName? with
  | none =>
    rw [writeFile_of_fileName?_eq_none hname] at h
    cases h
  | some name =>
    rw [writeFile_eq hname, mem_asked_andThen, asked_blame, run_blame] at h
    rw [run_writeFile hname]
    rcases h with h | ⟨_, hmade, h⟩
    · have hsort := (only_makeDirectories p.directory).sort_of_asked h
      simp at hsort
    · rcases hrun : (makeDirectories p.directory).run t with ⟨refusal | made, s⟩
      · rw [hrun] at hmade
        cases hmade
      · rw [hrun] at h
        exact (overwriting p content s).node?_of_asked h

/-! ### Paths without two dots -/

private theorem place_ne_of_passes (hp : ".." ∉ p.pieces) (hname : p.fileName? = some name)
    (h : p.directory.Passes place) : place ≠ p.place ∧ place ≠ p.staged.place := by
  have hlength := (h.isPrefix (Path.notMem_pieces_directory hp)).length_le
  constructor
  · rintro rfl
    rw [(Path.place_of_fileName? hname).2, List.length_append, List.length_singleton] at hlength
    omega
  · rintro rfl
    rw [Path.place_staged hname, List.length_append, List.length_singleton] at hlength
    omega

namespace WrittenAt

private theorem at_place (hp : ".." ∉ p.pieces) (hname : p.fileName? = some name)
    (h : WrittenAt p content t s p.place) :
    s.node? p.place = t.node? p.place ∨ s.node? p.place = some (.file content.toUTF8) := by
  have hne := Path.place_staged_ne hname
  cases h with
  | kept h => exact .inl h
  | target _ hnode => exact .inr hnode
  | removed h => exact absurd h.symm hne
  | staged h => exact absurd h.symm hne
  | onWay hpasses => exact absurd rfl (place_ne_of_passes hp hname hpasses).1

private theorem at_staged (hp : ".." ∉ p.pieces) (hname : p.fileName? = some name)
    (h : WrittenAt p content t s p.staged.place) :
    s.node? p.staged.place = t.node? p.staged.place ∨ s.node? p.staged.place = none ∨
      ∃ n, s.node? p.staged.place = some (.file (content.toUTF8.extract 0 n)) := by
  cases h with
  | kept h => exact .inl h
  | target h => exact absurd h (Path.place_staged_ne hname)
  | removed _ hnode => exact .inr (.inl hnode)
  | staged _ n hnode => exact .inr (.inr ⟨n, hnode⟩)
  | onWay hpasses => exact absurd rfl (place_ne_of_passes hp hname hpasses).2

private theorem elsewhere (hp : ".." ∉ p.pieces) (hplace : place ≠ p.place)
    (hstaged : place ≠ p.staged.place) (h : WrittenAt p content t s place) :
    s.node? place = t.node? place ∨
      t.node? place = none ∧ s.node? place = some .directory ∧ place <+: p.place := by
  cases h with
  | kept h => exact .inl h
  | target h => exact absurd h hplace
  | removed h => exact absurd h hstaged
  | staged h => exact absurd h hstaged
  | onWay hpasses hnone hnode => exact .inr ⟨hnone, hnode, hpasses.of_directory.isPrefix hp⟩

end WrittenAt

/-- Files are written as a whole. In every state of writing a file its place holds what it held
before or all of the new content; the hidden place holds what it held before, nothing, or the first
bytes of the content; and elsewhere nothing changes but that directories come up above the file. In
the end either the file has its content and the hidden file is gone, or the file is as it was, and
the hidden file is gone here too if it was the renaming that was refused. -/
theorem writeFile_atomic (t : Tree) (p : Path) (content : String) (hp : ".." ∉ p.pieces) :
    (∀ name, p.fileName? = some name → p.place = p.directory.place ++ [name] ∧
      p.staged.place = p.directory.place ++ ["." ++ name ++ ".tmp"] ∧
      p.staged.place ≠ p.place) ∧
    (∀ s ∈ (writeFile p content).states t,
      (s.node? p.place = t.node? p.place ∨ s.node? p.place = some (.file content.toUTF8)) ∧
      (s.node? p.staged.place = t.node? p.staged.place ∨ s.node? p.staged.place = none ∨
        ∃ n, s.node? p.staged.place = some (.file (content.toUTF8.extract 0 n))) ∧
      ∀ place, place ≠ p.place → place ≠ p.staged.place →
        s.node? place = t.node? place ∨
          t.node? place = none ∧ s.node? place = some .directory ∧ place <+: p.place) ∧
    (((writeFile p content).run t).1 = .ok () →
      ((writeFile p content).run t).2.node? p.place = some (.file content.toUTF8) ∧
        ((writeFile p content).run t).2.node? p.staged.place = none) ∧
    (((writeFile p content).run t).1 ≠ .ok () →
      ((writeFile p content).run t).2.node? p.place = t.node? p.place) ∧
    ∀ refusal, ⟨.rename p.staged p, .error refusal⟩ ∈ (writeFile p content).asked t →
      ((writeFile p content).run t).2.node? p.staged.place = none := by
  cases hname : p.fileName? with
  | none =>
    rw [writeFile_of_fileName?_eq_none hname]
    refine ⟨?_, ?_, ?_, fun _ => rfl, ?_⟩
    · intro name h
      cases h
    · intro s hs
      rw [List.mem_singleton.mp hs]
      exact ⟨.inl rfl, .inl rfl, fun _ _ _ => .inl rfl⟩
    · intro h
      cases h
    · intro refusal h
      cases h
  | some name =>
    have hne := Path.place_staged_ne hname
    refine ⟨?_, ?_, ?_, ?_, fun refusal h => node?_of_rename_refused h⟩
    · intro name' h
      cases h
      exact ⟨(Path.place_of_fileName? hname).2, Path.place_staged hname, hne⟩
    · intro s hs
      have hwritten := writtenAt_of_writeFile hs
      exact ⟨(hwritten _).at_place hp hname, (hwritten _).at_staged hp hname,
        fun place hplace hstaged => (hwritten place).elsewhere hp hplace hstaged⟩
    · intro h
      exact node?_of_writeFile (Prod.ext h rfl)
    · intro h
      rcases hresult : (writeFile p content).run t with ⟨fault | _, s⟩
      · rcases grownAt_of_writeFile hresult with hkept | ⟨-, -, hpasses⟩
        · exact hkept
        · exact absurd rfl (place_ne_of_passes hp hname hpasses).1
      · rw [hresult] at h
        exact absurd rfl h

/-- A directory with a file that is no text. -/
def namesTree : Tree :=
  ((∅ : Tree).insert ["gen"] .directory).insert ["gen", "names"] (.file ⟨#[255]⟩)

/-- However its path is spelled, a file is seen whole. Where the renaming is refused there is none,
and where it is not the new content comes in place of the old one. -/
theorem writeFile_atomic_spelled :
    (".." ∉ (Path.ofText "./gen//names/.").pieces ∧
      ∀ s ∈ (writeFile (Path.ofText "./gen//names/.") "text").states ∅,
        s.node? ["gen", "names"] = none ∨
          s.node? ["gen", "names"] = some (.file "text".toUTF8)) ∧
    ".." ∉ (Path.ofText "gen/names").pieces ∧
      (∀ s ∈ (writeFile (Path.ofText "gen/names") "text").states namesTree,
        s.node? ["gen", "names"] = some (.file ⟨#[255]⟩) ∨
          s.node? ["gen", "names"] = some (.file "text".toUTF8)) ∧
      ((writeFile (Path.ofText "gen/names") "text").run namesTree).1 = .ok () ∧
      ((writeFile (Path.ofText "gen/names") "text").run namesTree).2.node? ["gen", "names"] =
        some (.file "text".toUTF8) ∧
      ((writeFile (Path.ofText "gen/names") "text").run namesTree).2.node?
        ["gen", ".names.tmp"] = none := by
  have hp : ".." ∉ (Path.ofText "./gen//names/.").pieces := by decide
  have hplace : (Path.ofText "./gen//names/.").place = ["gen", "names"] := by decide
  have hp' : ".." ∉ (Path.ofText "gen/names").pieces := by decide
  have hplace' : (Path.ofText "gen/names").place = ["gen", "names"] := by decide
  have hstaged : (Path.ofText "gen/names").staged.place = ["gen", ".names.tmp"] := by decide
  have hok : ((writeFile (Path.ofText "gen/names") "text").run namesTree).1 = .ok () := by
    have hmade : (makeDirectories (Path.ofText "gen/names").directory).run namesTree =
        (.ok (), namesTree) := run_makeDirectories_of_namesDirectory (by decide)
    have haccepts : namesTree.Accepts (Path.ofText "gen/names").staged ∧
        namesTree.Accepts (Path.ofText "gen/names") := by decide
    rw [(run_writeFile_eq_ok_iff "text").mpr ⟨by decide, _, hmade, haccepts.1, haccepts.2, rfl⟩]
  obtain ⟨-, hstates, hdone, -, -⟩ := writeFile_atomic namesTree _ "text" hp'
  refine ⟨⟨hp, fun s hs => ?_⟩, hp', fun s hs => ?_, hok, ?_, ?_⟩
  · have h := ((writeFile_atomic ∅ _ "text" hp).2.1 s hs).1
    rwa [hplace] at h
  · have h := (hstates s hs).1
    rwa [hplace'] at h
  · have h := (hdone hok).1
    rwa [hplace'] at h
  · have h := (hdone hok).2
    rwa [hstaged] at h

end ApiBindings.Files
