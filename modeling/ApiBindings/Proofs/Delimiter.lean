/-!
# Text in front of a delimiter

Where a run of characters ends, if the characters behind it cannot belong to it.
-/

namespace ApiBindings.Text

/-- Two runs of one class of characters, each in front of something else, are cut off alike. -/
theorem append_inj_of_class {p : Char → Prop} {a b r s : List Char} (ha : ∀ c ∈ a, p c)
    (hb : ∀ c ∈ b, p c) (hr : ∀ c ∈ r.head?, ¬p c) (hs : ∀ c ∈ s.head?, ¬p c)
    (h : a ++ r = b ++ s) : a = b ∧ r = s := by
  induction a generalizing b with
  | nil =>
    cases b with
    | nil => exact ⟨rfl, h⟩
    | cons c b =>
      subst h
      exact absurd (hb c (by simp)) (hr c (by simp))
  | cons c a ih =>
    cases b with
    | nil =>
      subst h
      exact absurd (ha c (by simp)) (hs c (by simp))
    | cons d b =>
      obtain ⟨rfl, htail⟩ := List.cons.inj h
      obtain ⟨rfl, hrest⟩ := ih (fun c hc => ha c (.tail _ hc))
        (fun c hc => hb c (.tail _ hc)) htail
      exact ⟨rfl, hrest⟩

/-- Two texts without a delimiter, each in front of one, are cut off alike. -/
theorem append_cons_inj_of_not_mem {d : Char} {a b r s : List Char} (ha : d ∉ a) (hb : d ∉ b)
    (h : a ++ d :: r = b ++ d :: s) : a = b ∧ r = s := by
  have hcut := append_inj_of_class (p := (· ≠ d)) (fun c hc hd => ha (hd ▸ hc))
    (fun c hc hd => hb (hd ▸ hc)) (by simp) (by simp) h
  exact ⟨hcut.1, (List.cons.inj hcut.2).2⟩

end ApiBindings.Text
