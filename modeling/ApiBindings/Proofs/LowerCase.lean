import ApiBindings.Proofs.Name

/-!
# Names in lower case

Lower-casing a character twice is lower-casing it once, which the rows of the case tables show: no
row moves what another one maps to. So snake case settles once no capital is left, as it does for
every text whose characters lose their capitals one by one; and an identifier, which is made of
ASCII characters in lower case, settles at once.
-/

namespace ApiBindings.Text

/-! ### Lower-casing twice -/

/-- Whether a shift maps something into a range. Their ends are compared first, which spares most
pairs of rows the search. -/
def CharShift.leadsInto (s : CharShift) (r : CharRange) : Bool :=
  Nat.ble s.target r.last && (Nat.ble r.first (s.target + (s.range.last - s.range.first)) &&
    (List.range (s.range.last - s.range.first + 1)).any fun passed =>
      passed % s.range.step == 0 && r.contains (s.target + passed))

private theorem CharShift.exists_of_image? {s : CharShift} {point image : Nat}
    (h : s.image? point = some image) : ∃ passed, image = s.target + passed ∧
      passed ≤ s.range.last - s.range.first ∧ passed % s.range.step = 0 := by
  rw [image?] at h
  split at h
  next hcontains =>
    cases h
    simp only [CharRange.contains, Bool.and_eq_true, decide_eq_true_eq, beq_iff_eq] at hcontains
    exact ⟨_, rfl, Nat.sub_le_sub_right hcontains.1.2 _, hcontains.2⟩
  next => cases h

private theorem CharShift.leadsInto_of_image? {s : CharShift} {r : CharRange} {point image : Nat}
    (himage : s.image? point = some image) (h : r.contains image = true) :
    s.leadsInto r = true := by
  obtain ⟨passed, rfl, hlast, hstep⟩ := exists_of_image? himage
  obtain ⟨hlow, hhigh⟩ := CharRange.bounds_of_contains h
  rw [leadsInto, Bool.and_eq_true, Bool.and_eq_true]
  refine ⟨Nat.ble_eq.mpr (by omega), Nat.ble_eq.mpr (by omega), List.any_eq_true.mpr ?_⟩
  exact ⟨passed, List.mem_range.mpr (by omega), by simp [hstep, h]⟩

private theorem lowerShifts_leadsInto : (CaseTable.lowerShifts.any fun s =>
    CaseTable.lowerShifts.any fun t => s.leadsInto t.range) = false := by
  decide +kernel

private theorem lowerShifts_target : (CaseTable.lowerShifts.all fun s => Nat.ble 0x5B s.target &&
    !CaseTable.lowerExpansions.any fun e => s.leadsInto ⟨e.1.toNat, e.1.toNat, 1⟩) = true := by
  decide +kernel

private theorem lower_eq_self {c : Char} (hascii : c.toLower = c)
    (hexpansions : CaseTable.lowerExpansions.lookup c = none)
    (hshifts : CaseTable.lowerShifts.findSome? (·.image? c.toNat) = none) : lower c = [c] := by
  rw [lower, hascii, hexpansions, shifted, hshifts]
  exact ite_self _

private theorem toLower_of_le {c : Char} (h : 0x5B ≤ c.toNat) : c.toLower = c := by
  refine dif_neg ?_
  rintro ⟨-, hcapital⟩
  have hlast : c.toNat ≤ 0x5A := UInt32.le_iff_toNat_le.mp hcapital
  omega

private theorem lower_ofNat_image {s : CharShift} {point image : Nat}
    (hs : s ∈ CaseTable.lowerShifts) (himage : s.image? point = some image) :
    lower (Char.ofNat image) = [Char.ofNat image] := by
  have htarget := List.all_eq_true.mp lowerShifts_target s hs
  rw [Bool.and_eq_true, Bool.not_eq_true'] at htarget
  obtain ⟨hbehind, hexpansions⟩ := htarget
  by_cases hvalid : image.isValidChar
  · have hpoint : (Char.ofNat image).toNat = image := by
      rw [Char.ofNat, dif_pos hvalid]
      rfl
    apply lower_eq_self
    · obtain ⟨passed, rfl, -, -⟩ := CharShift.exists_of_image? himage
      apply toLower_of_le
      rw [hpoint]
      exact Nat.le_add_right_of_le (Nat.ble_eq.mp hbehind)
    · rw [List.lookup_eq_none_iff]
      intro e he
      rw [bne_iff_ne]
      intro hkey
      have hhit : (CharRange.mk e.1.toNat e.1.toNat 1).contains image = true := by
        rw [← hkey, hpoint]
        simp [CharRange.contains]
      exact List.any_eq_false.mp hexpansions e he
        (CharShift.leadsInto_of_image? himage hhit)
    · rw [List.findSome?_eq_none_iff]
      intro t ht
      rw [hpoint, CharShift.image?, if_neg]
      intro hcontains
      have hmoved := List.any_eq_false.mp lowerShifts_leadsInto s hs
      exact hmoved (List.any_eq_true.mpr ⟨t, ht, CharShift.leadsInto_of_image? himage hcontains⟩)
  · rw [Char.ofNat, dif_neg hvalid]
    decide

private theorem lowerExpansions_lower : (CaseTable.lowerExpansions.all fun e =>
    e.2.all fun x => lower x == [x]) = true := by
  decide +kernel

/-- Lower-case mappings lead to characters that are their own lower case. -/
theorem lower_of_mem_lower {c x : Char} (h : x ∈ lower c) : lower x = [x] := by
  by_cases hascii : c.toNat < 0x80
  · rw [lower_of_ascii hascii, List.mem_singleton] at h
    subst h
    exact of_ascii (p := fun c => lower c.toLower = [c.toLower]) (by decide) hascii
  · rw [lower, if_neg hascii] at h
    cases hlookup : CaseTable.lowerExpansions.lookup c with
    | some mapping =>
      obtain ⟨before, after, hentries, -⟩ := List.lookup_eq_some_iff.mp hlookup
      have hmapping := List.all_eq_true.mp lowerExpansions_lower (c, mapping) (by simp [hentries])
      rw [hlookup] at h
      exact beq_iff_eq.mp (List.all_eq_true.mp hmapping x h)
    | none =>
      rw [hlookup, Option.getD_none, List.mem_singleton] at h
      subst h
      rw [shifted]
      cases himage : CaseTable.lowerShifts.findSome? (·.image? c.toNat) with
      | none =>
        show lower c = [c]
        exact lower_eq_self (toLower_of_le (by omega)) hlookup himage
      | some image =>
        obtain ⟨s, hs, hmoved⟩ := List.exists_of_findSome?_eq_some himage
        exact lower_ofNat_image hs hmoved

/-! ### Settled texts -/

/-- A text is settled if it is in lower case and holds no capital. -/
def IsSettled (s : List Char) : Prop := ∀ c ∈ s, lower c = [c] ∧ isUpper c = false

variable {s : List Char}

/-- Snake case leaves a settled text as it is. -/
theorem IsSettled.snakeChars_eq (h : IsSettled s) (afterLower : Bool) :
    snakeChars afterLower s = s := by
  induction s generalizing afterLower with
  | nil => rfl
  | cons c s ih =>
    obtain ⟨⟨hlower, hcapital⟩, hs⟩ := List.forall_mem_cons.mp h
    simp [snakeChars, hlower, hcapital, ih hs]

/-- Snake case is made of underscores and of characters in lower case. -/
theorem mem_snakeChars {afterLower : Bool} {x : Char} (h : x ∈ snakeChars afterLower s) :
    x = '_' ∨ ∃ c ∈ s, x ∈ lower c := by
  induction s generalizing afterLower with
  | nil => cases h
  | cons c s ih =>
    have htail : x ∈ lower c ++ snakeChars (isLower c) s →
        x = '_' ∨ ∃ c' ∈ c :: s, x ∈ lower c' := by
      intro hx
      rcases List.mem_append.mp hx with hx | hx
      · exact .inr ⟨c, by simp, hx⟩
      · exact (ih hx).imp_right fun ⟨c', hc', hx'⟩ => ⟨c', .tail _ hc', hx'⟩
    rw [snakeChars] at h
    split at h
    · exact (List.mem_cons.mp h).elim .inl htail
    · exact htail h

/-- Snake case settles a text whose characters lose their capitals. -/
theorem isSettled_snakeChars (h : ∀ c ∈ s, ∀ x ∈ lower c, isUpper x = false) (afterLower : Bool) :
    IsSettled (snakeChars afterLower s) := by
  intro x hx
  rcases mem_snakeChars hx with rfl | ⟨c, hc, hlower⟩
  · decide
  · exact ⟨lower_of_mem_lower hlower, h c hc x hlower⟩

/-! ### Names -/

/-- Word characters are capitals, letters in lower case and digits. -/
theorem isWordChar_iff {c : Char} :
    isWordChar c = true ↔ c.isUpper = true ∨ c.isLower = true ∨ c.isDigit = true := by
  have hcases : isWordChar c = (c.isUpper || c.isLower || c.isDigit) := rfl
  rw [hcases, Bool.or_eq_true, Bool.or_eq_true, or_assoc]

/-- Letters in lower case are word characters. -/
theorem isWordChar_of_isLower {c : Char} (h : c.isLower = true) : isWordChar c = true :=
  isWordChar_iff.mpr (.inr (.inl h))

private theorem plain_of_mem_identifier {name : String} {c : Char}
    (h : c ∈ (identifier name).toList) : c.isLower = true ∨ c.isDigit = true ∨ c = '_' := by
  rw [identifier, String.toList_ofList, List.mem_map] at h
  obtain ⟨x, hx, rfl⟩ := h
  split
  next hword =>
    rcases mem_snakeChars hx with rfl | ⟨y, -, hlower⟩
    · cases hword
    · have hascii := toNat_lt_of_isWordChar hword
      have hself := lower_of_mem_lower hlower
      rw [lower_of_ascii hascii, List.singleton_inj] at hself
      exact of_ascii (p := fun x => isWordChar x = true → x.toLower = x →
        x.isLower = true ∨ x.isDigit = true ∨ x = '_') (by decide) hascii hword hself
  next => exact .inr (.inr rfl)

/-- Lower-case letters, digits and underscores are settled. -/
theorem isSettled_of_plain (h : ∀ c ∈ s, c.isLower = true ∨ c.isDigit = true ∨ c = '_') :
    IsSettled s := by
  intro c hc
  have hascii : c.toNat < 0x80 := by
    rcases h c hc with hcase | hcase | rfl
    · exact toNat_lt_of_isWordChar (isWordChar_of_isLower hcase)
    · exact toNat_lt_of_isWordChar (isWordChar_of_isDigit hcase)
    · decide
  exact of_ascii (p := fun c => c.isLower = true ∨ c.isDigit = true ∨ c = '_' →
    lower c = [c] ∧ isUpper c = false) (by decide) hascii (h c hc)

/-- Snake case and identifiers settle. A text whose characters lose their capitals in lower case, as
every ASCII text does, is put in snake case once and for all, and its snake case gives the
identifier that it gives. The identifier of any text is made of ASCII letters in lower case, digits
and underscores; it is empty for the empty text only, and its own identifier. -/
theorem snakeCase_and_identifier_settle (name : String) :
    ((∀ c ∈ name.toList, ∀ x ∈ lower c, isUpper x = false) →
      snakeCase (snakeCase name) = snakeCase name ∧
        identifier (snakeCase name) = identifier name) ∧
    ((∀ c ∈ name.toList, c.toNat < 0x80) →
      ∀ c ∈ name.toList, ∀ x ∈ lower c, isUpper x = false) ∧
    (∀ c ∈ (identifier name).toList, c.isLower = true ∨ c.isDigit = true ∨ c = '_') ∧
    (identifier name = "" ↔ name = "") ∧
    identifier (identifier name) = identifier name := by
  refine ⟨fun h => ?_, fun h c hc x hx => ?_, fun c => plain_of_mem_identifier, ?_, ?_⟩
  · have hagain : snakeChars false (snakeCase name).toList = snakeChars false name.toList := by
      rw [snakeCase, String.toList_ofList]
      exact (isSettled_snakeChars h false).snakeChars_eq false
    exact ⟨by rw [snakeCase, hagain, ← snakeCase], by rw [identifier, hagain, ← identifier]⟩
  · rw [lower_of_ascii (h c hc), List.mem_singleton] at hx
    rw [hx]
    exact of_ascii (p := fun c => isUpper c.toLower = false) (by decide) (h c hc)
  · constructor
    · intro hempty
      rw [identifier, String.ofList_eq_empty_iff, List.map_eq_nil_iff] at hempty
      cases hchars : name.toList with
      | nil => exact String.toList_eq_nil_iff.mp hchars
      | cons c rest =>
        obtain ⟨x, more, hlower, -⟩ := exists_lower_eq_cons c
        rw [hchars, snakeChars, hlower] at hempty
        split at hempty <;> cases hempty
    · rintro rfl
      rfl
  · have hsettled : IsSettled (identifier name).toList :=
      isSettled_of_plain fun c => plain_of_mem_identifier
    have hkept : (identifier name).toList.map (fun c => if isWordChar c then c else '_') =
        (identifier name).toList.map id := by
      apply List.map_congr_left
      intro c hc
      rcases isWordChar_or_eq_of_mem_identifier hc with hword | rfl
      · exact if_pos hword
      · rfl
    rw [identifier, hsettled.snakeChars_eq, hkept, List.map_id, String.ofList_toList]

/-- A name with letters beyond ASCII, a capital that gets two characters and a dot: it settles. -/
theorem aerger_settles :
    snakeCase "\u00c4rgerD\u0130b.Ken" = "\u00e4rger_di\u0307b.ken" ∧
      snakeCase "\u00e4rger_di\u0307b.ken" = "\u00e4rger_di\u0307b.ken" ∧
      identifier "\u00e4rger_di\u0307b.ken" = identifier "\u00c4rgerD\u0130b.Ken" ∧
      snakeCase (snakeCase "DescribeDBInstances") = snakeCase "DescribeDBInstances" := by
  have hall : ("\u00c4rgerD\u0130b.Ken".toList.all fun c => (lower c).all (!isUpper ·)) = true := by
    decide +kernel
  have hcapitals : ∀ c ∈ "\u00c4rgerD\u0130b.Ken".toList, ∀ x ∈ lower c, isUpper x = false := by
    intro c hc x hx
    simpa using List.all_eq_true.mp (List.all_eq_true.mp hall c hc) x hx
  have honce : snakeCase "\u00c4rgerD\u0130b.Ken" = "\u00e4rger_di\u0307b.ken" := by decide +kernel
  obtain ⟨htwice, hidentifier⟩ := (snakeCase_and_identifier_settle _).1 hcapitals
  obtain ⟨hsettle, hascii, -⟩ := snakeCase_and_identifier_settle "DescribeDBInstances"
  rw [honce] at htwice hidentifier
  exact ⟨honce, htwice, hidentifier, (hsettle (hascii (by simp))).1⟩

end ApiBindings.Text
