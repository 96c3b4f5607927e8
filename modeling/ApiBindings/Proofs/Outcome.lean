import ApiBindings.Proofs.Recursion

/-!
# Outcomes of rendering

Rendering refuses a new shape at the top that is no structure. Otherwise it fails if and only if a
walk leads to an undeclared name without leaving a shape of the chain; loops on the way do not hide
the name, since some walk without them leads there too. The name that is reported is at the end of
the first such walk.
-/

namespace ApiBindings.Bindings

open Service
open Service.Description (Walk)

variable {d : Description} {docs : Formatter} {indent : String} {chain : List String}
  {name : String}

/-! ### Loose ends -/

/-- A walk to an undeclared name that leaves only declared shapes, and none of the chain. -/
structure IsLooseEnd (d : Description) (chain : List String) (name : String)
    (position : List Nat) (passed : List String) (m : String) : Prop where
  walk : d.Walk name position passed m
  clear : ∀ x ∈ passed, d.Declares x ∧ x ∉ chain
  undeclared : ¬ d.Declares m

/-- The first loose end among those whose walks leave no shape twice: no other one takes a
reference before it where they part. -/
structure IsFirstLooseEnd (d : Description) (chain : List String) (name : String)
    (position : List Nat) (passed : List String) (m : String) : Prop where
  loose : IsLooseEnd d chain name position passed m
  simple : passed.Nodup
  first : ∀ position' passed' m', IsLooseEnd d chain name position' passed' m' →
    passed'.Nodup → ¬ position' < position

/-- A loose end without loops is a visited position. -/
theorem isLooseEnd_iff_mem_visits {position : List Nat} {passed : List String} {m : String} :
    IsLooseEnd d chain name position passed m ∧ passed.Nodup ↔
      (⟨position, chain ++ passed, m⟩ : Visit) ∈ visits d chain name ∧ ¬ d.Declares m := by
  rw [mem_visits_iff]
  constructor
  · rintro ⟨⟨walk, hclear, hm⟩, hnodup⟩
    exact ⟨⟨passed, walk, rfl, hnodup, fun x hx => (hclear x hx).2⟩, hm⟩
  · rintro ⟨⟨passed', walk, hchain, hnodup, hpassed⟩, hm⟩
    obtain rfl := List.append_cancel_left hchain
    exact ⟨⟨walk, fun x hx => ⟨walk.declares_of_mem hx, hpassed x hx⟩, hm⟩, hnodup⟩

/-- A name that can be reached at all can be reached without a loop. -/
theorem IsLooseEnd.exists_nodup {position : List Nat} {passed : List String} {m : String}
    (h : IsLooseEnd d chain name position passed m) :
    ∃ position' passed', IsLooseEnd d chain name position' passed' m ∧ passed'.Nodup := by
  obtain ⟨position', passed', walk, hnodup, hsub⟩ := h.walk.exists_nodup
  exact ⟨position', passed', ⟨walk, fun x hx => h.clear x (hsub x hx), h.undeclared⟩, hnodup⟩

private theorem find?_eq_some_iff_of_pairwise {α : Type} {r : α → α → Prop} {p : α → Bool}
    {l : List α} (hasymm : ∀ a b, r a b → ¬ r b a) (h : l.Pairwise r) (a : α) :
    l.find? p = some a ↔ a ∈ l ∧ p a = true ∧ ∀ b ∈ l, p b = true → ¬ r b a := by
  induction l with
  | nil => simp
  | cons x l ih =>
    obtain ⟨hx, hl⟩ := List.pairwise_cons.mp h
    by_cases hpx : p x = true
    · rw [List.find?_cons_of_pos hpx]
      constructor
      · intro hfind
        cases hfind
        refine ⟨by simp, hpx, ?_⟩
        intro b hb _
        rcases List.mem_cons.mp hb with rfl | hb
        · intro hbb
          exact hasymm _ _ hbb hbb
        · exact hasymm _ _ (hx b hb)
      · rintro ⟨ha, -, hfirst⟩
        rcases List.mem_cons.mp ha with rfl | ha
        · rfl
        · exact absurd (hx a ha) (hfirst x (by simp) hpx)
    · have hne : ∀ b, p b = true → b ≠ x := by
        rintro b hb rfl
        exact hpx hb
      rw [List.find?_cons_of_neg hpx, ih hl]
      constructor
      · rintro ⟨ha, hpa, hfirst⟩
        refine ⟨List.mem_cons_of_mem _ ha, hpa, ?_⟩
        intro b hb hpb
        apply hfirst b _ hpb
        exact (List.mem_cons.mp hb).resolve_left (hne b hpb)
      · rintro ⟨ha, hpa, hfirst⟩
        refine ⟨(List.mem_cons.mp ha).resolve_left (hne a hpa), hpa, ?_⟩
        intro b hb hpb
        apply hfirst b _ hpb
        exact List.mem_cons_of_mem _ hb

/-- An expansion fails with the first loose end. -/
theorem outcome_expand_eq_error_iff_first {f : Failure} :
    (expand d chain name).outcome = .error f ↔
      ∃ position passed m, IsFirstLooseEnd d chain name position passed m ∧
        f = .unknownShape m := by
  rw [outcome_expand_eq_error_iff]
  simp only [find?_eq_some_iff_of_pairwise (fun v w : Visit => List.lt_asymm)
    (pairwise_visits d chain name)]
  constructor
  · rintro ⟨⟨position, vchain, m⟩, ⟨hmem, hloose, hfirst⟩, rfl⟩
    obtain ⟨passed, -, hchain, -⟩ := mem_visits_iff.mp hmem
    subst hchain
    have hm : ¬ d.Declares m := by simpa [Visit.isLoose] using hloose
    obtain ⟨hend, hnodup⟩ := isLooseEnd_iff_mem_visits.mpr ⟨hmem, hm⟩
    refine ⟨position, passed, m, ⟨hend, hnodup, ?_⟩, rfl⟩
    intro position' passed' m' hend' hnodup'
    obtain ⟨hmem', hm'⟩ := isLooseEnd_iff_mem_visits.mp ⟨hend', hnodup'⟩
    exact hfirst _ hmem' (by simpa [Visit.isLoose] using hm')
  · rintro ⟨position, passed, m, ⟨hend, hnodup, hfirst⟩, rfl⟩
    obtain ⟨hmem, hm⟩ := isLooseEnd_iff_mem_visits.mp ⟨hend, hnodup⟩
    refine ⟨⟨position, chain ++ passed, m⟩, ⟨hmem, by simpa [Visit.isLoose] using hm, ?_⟩, rfl⟩
    intro v hv hloose
    obtain ⟨passed', -, hchain, -⟩ := mem_visits_iff.mp hv
    obtain ⟨position', vchain, m'⟩ := v
    subst hchain
    have hm' : ¬ d.Declares m' := by simpa [Visit.isLoose] using hloose
    obtain ⟨hend', hnodup'⟩ := isLooseEnd_iff_mem_visits.mpr ⟨hv, hm'⟩
    exact hfirst position' passed' m' hend' hnodup'

/-- An expansion has a result if and only if there is no loose end. -/
theorem exists_outcome_expand_eq_ok_iff_not_loose :
    (∃ e, (expand d chain name).outcome = .ok e) ↔
      ¬ ∃ position passed m, IsLooseEnd d chain name position passed m := by
  rw [exists_outcome_expand_eq_ok_iff]
  constructor
  · rintro h ⟨position, passed, m, hend⟩
    obtain ⟨position', passed', hend', hnodup⟩ := hend.exists_nodup
    obtain ⟨hmem, hm⟩ := isLooseEnd_iff_mem_visits.mp ⟨hend', hnodup⟩
    exact hm (h _ hmem)
  · intro h v hv
    by_contra hm
    obtain ⟨passed, -, hchain, -⟩ := mem_visits_iff.mp hv
    obtain ⟨position, vchain, m⟩ := v
    subst hchain
    exact h ⟨position, passed, m, (isLooseEnd_iff_mem_visits.mpr ⟨hv, hm⟩).1⟩

/-! ### Outcomes -/

private theorem exists_loose_iff_error :
    (∃ position passed m, IsLooseEnd d chain name position passed m) ↔
      ∃ m, (expand d chain name).outcome = .error (.unknownShape m) := by
  rw [← not_iff_not, ← exists_outcome_expand_eq_ok_iff_not_loose]
  constructor
  · rintro ⟨e, he⟩ ⟨m, hm⟩
    rw [he] at hm
    cases hm
  · intro h
    cases he : (expand d chain name).outcome with
    | ok e => exact ⟨e, rfl⟩
    | error f =>
      obtain ⟨_, _, m, -, rfl⟩ := outcome_expand_eq_error_iff_first.mp he
      exact absurd ⟨m, he⟩ h

/-- Whether rendering is refused outright. -/
def IsRefused (d : Description) (indent : String) (chain : List String) (name : String) : Prop :=
  ∃ shape, Refused d indent chain name shape

private theorem outcome_render_eq_error_iff {f : Failure}
    (h : ¬ IsRefused d indent chain name) :
    (render d docs indent chain name).outcome = .error f ↔
      (expand d chain name).outcome = .error f := by
  rw [render_eq_map_shown fun shape hshape => h ⟨shape, hshape⟩, Report.outcome_map_eq_error_iff]

/-- A refusal names the shape at the top and its kind, and comes from nowhere else. -/
theorem outcome_render_eq_notStructure_iff {shown kind : String} :
    (render d docs indent chain name).outcome = .error (.notStructure shown kind) ↔
      ∃ shape, Refused d indent chain name shape ∧ shown = name ∧ kind = shape.kind := by
  by_cases h : IsRefused d indent chain name
  · obtain ⟨shape, hrefused⟩ := h
    rw [render_refused hrefused]
    constructor
    · intro herror
      cases herror
      exact ⟨shape, hrefused, rfl, rfl⟩
    · rintro ⟨shape', hrefused', rfl, rfl⟩
      have hsame := hrefused.found.symm.trans hrefused'.found
      cases hsame
      rfl
  · constructor
    · intro herror
      rw [outcome_render_eq_error_iff h, outcome_expand_eq_error_iff_first] at herror
      obtain ⟨_, _, m, -, hne⟩ := herror
      cases hne
    · rintro ⟨shape, hrefused, -⟩
      exact absurd ⟨shape, hrefused⟩ h

/-- An unknown shape is reported where rendering is not refused and the name is the first loose
end. -/
theorem outcome_render_eq_unknownShape_iff {m : String} :
    (render d docs indent chain name).outcome = .error (.unknownShape m) ↔
      ¬ IsRefused d indent chain name ∧
        ∃ position passed, IsFirstLooseEnd d chain name position passed m := by
  by_cases h : IsRefused d indent chain name
  · obtain ⟨shape, hrefused⟩ := h
    rw [render_refused hrefused]
    constructor
    · intro herror
      cases herror
    · rintro ⟨hnot, -⟩
      exact absurd ⟨shape, hrefused⟩ hnot
  · rw [outcome_render_eq_error_iff h, outcome_expand_eq_error_iff_first]
    constructor
    · rintro ⟨position, passed, m', hfirst, heq⟩
      cases heq
      exact ⟨h, position, passed, hfirst⟩
    · rintro ⟨-, position, passed, hfirst⟩
      exact ⟨position, passed, m, hfirst, rfl⟩

private theorem exists_outcome_render_eq_unknownShape_iff :
    (∃ m, (render d docs indent chain name).outcome = .error (.unknownShape m)) ↔
      ¬ IsRefused d indent chain name ∧
        ∃ position passed m, IsLooseEnd d chain name position passed m := by
  by_cases h : IsRefused d indent chain name
  · simp only [outcome_render_eq_unknownShape_iff, h, not_true, false_and, exists_false]
  · simp only [outcome_render_eq_error_iff h, exists_loose_iff_error, h, not_false_iff, true_and]

private theorem exists_outcome_render_eq_ok_iff :
    (∃ text, (render d docs indent chain name).outcome = .ok text) ↔
      ¬ IsRefused d indent chain name ∧
        ¬ ∃ position passed m, IsLooseEnd d chain name position passed m := by
  by_cases h : IsRefused d indent chain name
  · obtain ⟨shape, hrefused⟩ := h
    rw [render_refused hrefused]
    constructor
    · rintro ⟨text, ⟨⟩⟩
    · rintro ⟨hnot, -⟩
      exact absurd ⟨shape, hrefused⟩ hnot
  · rw [← exists_outcome_expand_eq_ok_iff_not_loose,
      render_eq_map_shown fun shape hshape => h ⟨shape, hshape⟩]
    simp only [Report.outcome_map_eq_ok_iff]
    constructor
    · rintro ⟨_, e, he, -⟩
      exact ⟨h, e, he⟩
    · rintro ⟨-, e, he⟩
      exact ⟨_, e, he, rfl⟩

private theorem isFirstLooseEnd_self (h : ¬ d.Declares name) :
    IsFirstLooseEnd d chain name [] [] name where
  loose := ⟨.stay name, by simp, h⟩
  simple := .nil
  first := fun position _ _ _ _ => List.not_lt_nil position

/-- With nothing on the chain, the undeclared names that references lead to are loose ends. -/
theorem exists_isLooseEnd_nil_iff :
    (∃ position passed m, IsLooseEnd d [] name position passed m) ↔
      ∃ m, Relation.ReflTransGen d.Refers name m ∧ ¬ d.Declares m := by
  constructor
  · rintro ⟨position, passed, m, hend⟩
    exact ⟨m, hend.walk.reflTransGen, hend.undeclared⟩
  · rintro ⟨m, hreach, hm⟩
    obtain ⟨position, passed, walk⟩ := Description.exists_walk hreach
    exact ⟨position, passed, m, walk, fun x hx => ⟨walk.declares_of_mem hx, by simp⟩, hm⟩

/-- The outcome of rendering, on every description and stack: a refusal of the root alone, else the
first undeclared name that a walk leads to, else a text. An undeclared root is reported even if it
is on the stack, and an empty stack hides no undeclared name. The one renderer that follows the
recursion on a stack has this outcome and leaves the stack as it was. -/
theorem render_outcome_exact (d : Description) (docs : Formatter) (indent : String)
    (stack : List String) (root : String) :
    (∀ shown kind, (render d docs indent stack root).outcome = .error (.notStructure shown kind) ↔
      ∃ shape, Refused d indent stack root shape ∧ shown = root ∧ kind = shape.kind) ∧
    ((∃ m, (render d docs indent stack root).outcome = .error (.unknownShape m)) ↔
      ¬ IsRefused d indent stack root ∧
        ∃ position passed m, IsLooseEnd d stack root position passed m) ∧
    (∀ m, (render d docs indent stack root).outcome = .error (.unknownShape m) ↔
      ¬ IsRefused d indent stack root ∧
        ∃ position passed, IsFirstLooseEnd d stack root position passed m) ∧
    ((∃ text, (render d docs indent stack root).outcome = .ok text) ↔
      ¬ IsRefused d indent stack root ∧
        ¬ ∃ position passed m, IsLooseEnd d stack root position passed m) ∧
    (¬ d.Declares root →
      (render d docs indent stack root).outcome = .error (.unknownShape root)) ∧
    ((∃ m, (render d docs indent [] root).outcome = .error (.unknownShape m)) ↔
      ¬ IsRefused d indent [] root ∧
        ∃ m, Relation.ReflTransGen d.Refers root m ∧ ¬ d.Declares m) ∧
    (∃ run : Renderer, (∀ other : Renderer, other.Solves d docs ↔ other = run) ∧
      run indent root stack = (render d docs indent stack root, stack)) := by
  refine ⟨fun shown kind => outcome_render_eq_notStructure_iff,
    exists_outcome_render_eq_unknownShape_iff, fun m => outcome_render_eq_unknownShape_iff,
    exists_outcome_render_eq_ok_iff, ?_, ?_, ?_⟩
  · intro hroot
    have hnot : ¬ IsRefused d indent stack root := by
      rintro ⟨shape, hrefused⟩
      exact hroot (Description.declares_iff.mpr ⟨shape, hrefused.found⟩)
    rw [outcome_render_eq_unknownShape_iff]
    exact ⟨hnot, [], [], isFirstLooseEnd_self hroot⟩
  · rw [exists_outcome_render_eq_unknownShape_iff, exists_isLooseEnd_nil_iff]
  · refine ⟨Renderer.ofRender d docs, fun other => ⟨fun h => h.eq_ofRender, ?_⟩, rfl⟩
    rintro rfl
    exact Renderer.solves_ofRender d docs

end ApiBindings.Bindings
