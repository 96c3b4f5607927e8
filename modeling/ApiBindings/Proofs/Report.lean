import ApiBindings.Bindings.Report
import Mathlib.Data.List.Forall2

/-!
# Laws of reports

Mapping and chaining of reports, and the treatment of lists. What a list gives once its results are
dropped depends only on the reports of its elements, so a list may be replaced by one that reports
the same in smaller steps.
-/

namespace ApiBindings.Bindings

section Related

variable {α β : Type} {R : α → β → Prop} {as : List α} {bs : List β}

/-- What is at a position of the one list is related to what is there in the other. -/
theorem exists_getElem?_of_forall₂ (h : List.Forall₂ R as bs) {i : Nat} {a : α}
    (ha : as[i]? = some a) : ∃ b, bs[i]? = some b ∧ R a b := by
  induction h generalizing i with
  | nil => cases ha
  | @cons a' b as bs hab _ ih =>
    cases i with
    | zero =>
      cases ha
      exact ⟨b, rfl, hab⟩
    | succ i => exact ih ha

/-- What is on the left is related to something on the right. -/
theorem exists_of_mem_left (h : List.Forall₂ R as bs) {a : α} (ha : a ∈ as) :
    ∃ b ∈ bs, R a b := by
  obtain ⟨i, hi⟩ := List.mem_iff_getElem?.mp ha
  obtain ⟨b, hb, hab⟩ := exists_getElem?_of_forall₂ h hi
  exact ⟨b, List.mem_of_getElem? hb, hab⟩

/-- What is on the right is related to something on the left. -/
theorem exists_of_mem_right (h : List.Forall₂ R as bs) {b : β} (hb : b ∈ bs) :
    ∃ a ∈ as, R a b :=
  exists_of_mem_left h.flip hb

end Related

namespace Report

variable {α β γ δ : Type}

/-- Reports with the same events and outcome are equal. -/
theorem ext {r s : Report α} (hevents : r.events = s.events) (houtcome : r.outcome = s.outcome) :
    r = s := by
  cases r
  cases s
  cases hevents
  cases houtcome
  rfl

/-- A report without a result has failed. -/
theorem exists_outcome_eq_ok_iff (r : Report α) :
    (∃ a, r.outcome = .ok a) ↔ ∀ e, r.outcome ≠ .error e := by
  cases h : r.outcome <;> simp

/-- Changing the result leaves the events. -/
@[simp] theorem events_map (f : α → β) (r : Report α) : (r.map f).events = r.events := rfl

/-- Changing the result changes the outcome. -/
@[simp] theorem outcome_map (f : α → β) (r : Report α) :
    (r.map f).outcome = r.outcome.map f := rfl

/-- A plain result is changed at once. -/
@[simp] theorem done_map (f : α → β) (a : α) : (done a).map f = done (f a) := rfl

/-- Two changes of the result are one. -/
theorem map_map (f : α → β) (g : β → γ) (r : Report α) :
    (r.map f).map g = r.map fun a => g (f a) := by
  apply ext
  · rfl
  · cases h : r.outcome <;> simp [h, Except.map]

/-- Only the last step of a chain makes the result. -/
theorem map_bind (r : Report α) (f : α → Report β) (g : β → γ) :
    (r.bind f).map g = r.bind fun a => (f a).map g := by
  cases h : r.outcome <;> simp [bind, map, h, Except.map]

/-- The next step may read the result before it is changed. -/
theorem bind_map (r : Report α) (f : α → β) (g : β → Report γ) :
    (r.map f).bind g = r.bind fun a => g (f a) := by
  cases h : r.outcome <;> simp [bind, map, h, Except.map]

/-- The result of a change is there if and only if there was one before it. -/
theorem outcome_map_eq_ok_iff (f : α → β) (r : Report α) (b : β) :
    (r.map f).outcome = .ok b ↔ ∃ a, r.outcome = .ok a ∧ f a = b := by
  cases h : r.outcome <;> simp [h, Except.map]

/-- A change of the result keeps the failure. -/
theorem outcome_map_eq_error_iff (f : α → β) (r : Report α) (e : Failure) :
    (r.map f).outcome = .error e ↔ r.outcome = .error e := by
  cases h : r.outcome <;> simp [h, Except.map]

/-- A chain has a result if and only if both its steps have. -/
theorem outcome_bind_eq_ok_iff (r : Report α) (f : α → Report β) (b : β) :
    (r.bind f).outcome = .ok b ↔ ∃ a, r.outcome = .ok a ∧ (f a).outcome = .ok b := by
  cases h : r.outcome <;> simp [bind, h]

/-- A chain fails if and only if one of its steps is the first to fail. -/
theorem outcome_bind_eq_error_iff (r : Report α) (f : α → Report β) (e : Failure) :
    (r.bind f).outcome = .error e ↔
      r.outcome = .error e ∨ ∃ a, r.outcome = .ok a ∧ (f a).outcome = .error e := by
  cases h : r.outcome <;> simp [bind, h]

/-- Nothing is done for the empty list. -/
@[simp] theorem each_nil (f : γ → Report α) : each f [] = done [] := rfl

/-- The first element comes first. -/
theorem each_cons (f : γ → Report α) (c : γ) (l : List γ) :
    each f (c :: l) = (f c).bind fun a => (each f l).map fun as => a :: as := by
  cases h : (each f l).outcome <;> simp [each, bind, map, done, h, Except.map]

/-- A list may be changed before it is treated. -/
theorem each_comp (f : γ → Report α) (g : δ → γ) (l : List δ) :
    each f (l.map g) = each (fun c => f (g c)) l := by
  induction l with
  | nil => rfl
  | cons c l ih => rw [List.map_cons, each_cons, each_cons, ih]

/-- Results may be changed one by one or all at the end. -/
theorem each_map (f : γ → Report α) (g : α → β) (l : List γ) :
    each (fun c => (f c).map g) l = (each f l).map (List.map g) := by
  induction l with
  | nil => rfl
  | cons c l ih =>
    rw [each_cons, each_cons, ih, bind_map, map_bind]
    simp only [map_map, List.map_cons]

/-- Results may be changed one by one, or all at the end against the list they came from. -/
theorem each_zipWith (f : γ → Report α) (g : γ → α → β) (l : List γ) :
    each (fun c => (f c).map (g c)) l = (each f l).map (List.zipWith g l) := by
  induction l with
  | nil => rfl
  | cons c l ih =>
    rw [each_cons, each_cons, ih, bind_map, map_bind]
    simp only [map_map, List.zipWith_cons_cons]

/-- A list has results if and only if all its elements have, each its own. -/
theorem outcome_each_eq_ok_iff (f : γ → Report α) (l : List γ) (as : List α) :
    (each f l).outcome = .ok as ↔ List.Forall₂ (fun c a => (f c).outcome = .ok a) l as := by
  induction l generalizing as with
  | nil => simp [done, eq_comm]
  | cons c l ih =>
    rw [each_cons]
    cases hc : (f c).outcome with
    | error e => simp [bind, hc, List.forall₂_cons_left_iff]
    | ok a =>
      simp only [bind, hc, outcome_map_eq_ok_iff, ih, List.forall₂_cons_left_iff,
        Except.ok.injEq]
      constructor
      · rintro ⟨rest, hrest, rfl⟩
        exact ⟨a, rest, rfl, hrest, rfl⟩
      · rintro ⟨_, rest, rfl, hrest, rfl⟩
        exact ⟨rest, hrest, rfl⟩

/-- A list fails if and only if one of its elements does and all before it have results. -/
theorem outcome_each_eq_error_iff (f : γ → Report α) (l : List γ) (e : Failure) :
    (each f l).outcome = .error e ↔
      ∃ before c after, l = before ++ c :: after ∧
        (∀ b ∈ before, ∃ a, (f b).outcome = .ok a) ∧ (f c).outcome = .error e := by
  induction l with
  | nil => simp [done]
  | cons c l ih =>
    rw [each_cons, outcome_bind_eq_error_iff]
    simp only [outcome_map_eq_error_iff, ih]
    constructor
    · rintro (hc | ⟨a, hc, before, c', after, rfl, hbefore, hc'⟩)
      · exact ⟨[], c, l, rfl, by simp, hc⟩
      · refine ⟨c :: before, c', after, rfl, ?_, hc'⟩
        intro b hb
        rcases List.mem_cons.mp hb with rfl | hb
        · exact ⟨a, hc⟩
        · exact hbefore b hb
    · rintro ⟨before, c', after, hsplit, hbefore, hc'⟩
      cases before with
      | nil =>
        cases hsplit
        exact .inl hc'
      | cons b before =>
        cases hsplit
        obtain ⟨a, ha⟩ := hbefore c (by simp)
        exact .inr ⟨a, ha, before, c', after, rfl, fun x hx => hbefore x (by simp [hx]), hc'⟩

/-- A list has results if and only if all its elements have. -/
theorem exists_outcome_each_eq_ok_iff (f : γ → Report α) (l : List γ) :
    (∃ as, (each f l).outcome = .ok as) ↔ ∀ c ∈ l, ∃ a, (f c).outcome = .ok a := by
  induction l with
  | nil => simp [done]
  | cons c l ih =>
    simp only [each_cons, outcome_bind_eq_ok_iff, outcome_map_eq_ok_iff, List.forall_mem_cons,
      ← ih]
    constructor
    · rintro ⟨_, a, ha, as, has, rfl⟩
      exact ⟨⟨a, ha⟩, as, has⟩
    · rintro ⟨⟨a, ha⟩, as, has⟩
      exact ⟨_, a, ha, as, has, rfl⟩

/-- Lists of elements that report the same report the same. -/
theorem each_congr {f : γ → Report α} {g : δ → Report α} {l : List γ} {m : List δ}
    (h : List.Forall₂ (fun c c' => f c = g c') l m) : each f l = each g m := by
  induction h with
  | nil => rfl
  | cons hc _ ih => rw [each_cons, each_cons, hc, ih]

/-- Two lists in a row are one, unless the first one fails. -/
theorem each_append (f : γ → Report α) (l m : List γ) :
    each f (l ++ m) = (each f l).bind fun as => (each f m).map fun bs => as ++ bs := by
  induction l with
  | nil =>
    rw [each_nil, done_bind, List.nil_append]
    exact ext rfl (by cases h : (each f m).outcome <;> simp [h, Except.map])
  | cons c l ih =>
    rw [List.cons_append, each_cons, ih, each_cons, bind_assoc]
    simp only [map_bind, bind_map, map_map, List.cons_append]

/-- The elements of a list that are treated: all up to the first failure. -/
def reached (f : γ → Report α) : List γ → List γ
  | [] => []
  | c :: rest =>
    match (f c).outcome with
    | .ok _ => c :: reached f rest
    | .error _ => [c]

/-- Only elements of the list are treated. -/
theorem mem_of_mem_reached {f : γ → Report α} {l : List γ} {c : γ} (h : c ∈ reached f l) :
    c ∈ l := by
  induction l with
  | nil => cases h
  | cons first l ih =>
    rw [reached] at h
    split at h
    · exact List.mem_cons.mpr ((List.mem_cons.mp h).imp_right ih)
    · exact List.mem_cons.mpr (.inl (List.mem_singleton.mp h))

/-- A list reports what its elements report, up to the first failure. -/
theorem events_each (f : γ → Report α) (l : List γ) :
    (each f l).events = (reached f l).flatMap fun c => (f c).events := by
  induction l with
  | nil => rfl
  | cons c l ih =>
    rw [each_cons, reached]
    cases hc : (f c).outcome with
    | error e => simp [bind, hc]
    | ok a => simp [bind, hc, ih]

/-- A report without its result. -/
def discard (r : Report α) : Report Unit := r.map fun _ => ()

/-- Without results, a list is its elements one after the other. -/
theorem discard_each_cons (f : γ → Report α) (c : γ) (l : List γ) :
    (each f (c :: l)).discard = (f c).discard.bind fun _ => (each f l).discard := by
  rw [each_cons, discard, map_bind, discard, bind_map]
  simp only [map_map, discard]

/-- A change of the results is not seen once they are dropped. -/
theorem discard_map (f : α → β) (r : Report α) : (r.map f).discard = r.discard := map_map f _ r

/-- Changes of the elements' results are not seen once they are dropped. -/
theorem discard_each_map (f : γ → Report α) (g : γ → α → β) (l : List γ) :
    (each (fun c => (f c).map (g c)) l).discard = (each f l).discard := by
  induction l with
  | nil => rfl
  | cons c l ih => rw [discard_each_cons, discard_each_cons, ih, discard_map]

/-- Without results, two lists in a row are one. -/
theorem discard_each_append (f : γ → Report α) (l m : List γ) :
    (each f (l ++ m)).discard = (each f l).discard.bind fun _ => (each f m).discard := by
  induction l with
  | nil => rfl
  | cons c l ih => rw [List.cons_append, discard_each_cons, ih, discard_each_cons, bind_assoc]

/-- Elements may be replaced by lists that report the same. -/
theorem discard_each_flatMap {f : γ → Report α} {g : δ → Report β} {h : γ → List δ}
    {l : List γ} (heq : ∀ c ∈ l, (f c).discard = (each g (h c)).discard) :
    (each f l).discard = (each g (l.flatMap h)).discard := by
  induction l with
  | nil => rfl
  | cons c l ih =>
    rw [List.flatMap_cons, discard_each_append, discard_each_cons, heq c (by simp),
      ih fun x hx => heq x (by simp [hx])]

end Report

end ApiBindings.Bindings
