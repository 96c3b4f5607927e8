import ApiBindings.Json.Numeral
import ApiBindings.Proofs.Delimiter
import Mathlib.Algebra.Group.Int.Defs
import Mathlib.Algebra.Group.Nat.Defs

/-!
# Written numbers

A written number is made of digits, signs, a point and an exponent letter, and different numbers
are written differently.
-/

namespace ApiBindings.Json

open Text (append_cons_inj_of_not_mem)

/-- The characters of which numbers are written. -/
def IsNumberChar (c : Char) : Prop :=
  c.isDigit ∨ c = '-' ∨ c = '+' ∨ c = '.' ∨ c = 'e'

/-! ### Digits -/

private theorem isDigit_of_mem_toDigits {n : Nat} {c : Char} (h : c ∈ Nat.toDigits 10 n) :
    c.isDigit :=
  Nat.isDigit_of_mem_toDigits (by decide) (by decide) h

/-- A number is determined by its digits. -/
theorem toDigits_injective : Function.Injective (Nat.toDigits 10) := fun m n h => by
  rw [← Nat.ofDigitChars_ten_toDigits (n := m), h, Nat.ofDigitChars_ten_toDigits]

private theorem ofDigitChars_zeros_append (n : Nat) (digits : List Char) :
    Nat.ofDigitChars 10 (List.replicate n '0' ++ digits) 0 = Nat.ofDigitChars 10 digits 0 := by
  rw [Nat.ofDigitChars_append, Nat.ofDigitChars_replicate_zero, Nat.mul_zero]

private theorem ofDigitChars_append_zeros (digits : List Char) (n : Nat) :
    Nat.ofDigitChars 10 (digits ++ List.replicate n '0') 0 =
      Nat.ofDigitChars 10 digits 0 * 10 ^ n := by
  rw [Nat.ofDigitChars_append, Nat.ofDigitChars_replicate_zero, Nat.mul_comm]

/-- Characters behind a minus sign, if there is one. -/
def signedChars (negative : Bool) (body : List Char) : List Char :=
  if negative then '-' :: body else body

private theorem signedChars_inj {negative negative' : Bool} {body body' : List Char}
    (hbody : ∃ c rest, body = c :: rest ∧ c.isDigit)
    (hbody' : ∃ c rest, body' = c :: rest ∧ c.isDigit)
    (h : signedChars negative body = signedChars negative' body') :
    negative = negative' ∧ body = body' := by
  obtain ⟨c, rest, rfl, hc⟩ := hbody
  obtain ⟨c', rest', rfl, hc'⟩ := hbody'
  cases negative <;> cases negative' <;> obtain ⟨hhead, htail⟩ := List.cons.inj h
  · exact ⟨rfl, h⟩
  · subst hhead
    cases hc
  · subst hhead
    cases hc'
  · exact ⟨rfl, htail⟩

private theorem exists_toDigits_cons (n : Nat) :
    ∃ c rest, Nat.toDigits 10 n = c :: rest ∧ c.isDigit := by
  obtain ⟨c, rest, h⟩ := List.exists_cons_of_ne_nil (Nat.toDigits_ne_nil (n := n) (b := 10))
  exact ⟨c, rest, h, isDigit_of_mem_toDigits (h ▸ List.mem_cons_self)⟩

private theorem toList_toString_int (n : Int) :
    (toString n).toList = signedChars (decide (n < 0)) (Nat.toDigits 10 n.natAbs) := by
  rw [Int.toString_eq_repr, Int.repr_eq_if]
  by_cases h : 0 ≤ n
  · rw [if_pos h, Nat.toList_repr, signedChars, if_neg (by simpa using h)]
    congr 1
    omega
  · have hnatAbs : (-n).toNat = n.natAbs := by omega
    rw [if_neg h, String.toList_append, Nat.toList_repr, hnatAbs, signedChars,
      if_pos (by simpa using h)]
    rfl

/-! ### Decimals -/

namespace Decimal

private theorem exists_toList_positional {digits : List Char} (hdigits : ∀ c ∈ digits, c.isDigit)
    (hne : digits ≠ []) (exponent : Int) :
    ∃ whole fraction, (positional digits exponent).toList = whole ++ '.' :: fraction ∧
      whole ≠ [] ∧ (∀ c ∈ whole ++ fraction, c.isDigit) ∧ 0 ≤ exponent + fraction.length ∧
      Nat.ofDigitChars 10 (whole ++ fraction) 0 =
        Nat.ofDigitChars 10 digits 0 * 10 ^ (exponent + fraction.length).toNat := by
  have hzeros : ∀ n, ∀ c ∈ List.replicate n '0', c.isDigit := fun n c hc => by
    rw [List.eq_of_mem_replicate hc]
    rfl
  unfold positional
  by_cases hexponent : 0 ≤ exponent
  · refine ⟨digits ++ List.replicate exponent.toNat '0', ['0'], ?_, by simp [hne], ?_, ?_, ?_⟩
    · simp [hexponent, zeros]
    · intro c hc
      simp only [List.mem_append, List.mem_singleton] at hc
      rcases hc with (hc | hc) | rfl
      · exact hdigits c hc
      · exact hzeros _ c hc
      · rfl
    · simp only [List.length_cons, List.length_nil]
      omega
    · have hlength : (exponent + (['0'] : List Char).length).toNat = exponent.toNat + 1 := by
        simp only [List.length_cons, List.length_nil]
        omega
      rw [hlength, List.append_assoc, ← List.replicate_succ', ofDigitChars_append_zeros]
  · by_cases hwhole : digits.length - exponent.natAbs = 0
    · refine ⟨['0'], List.replicate (exponent.natAbs - digits.length) '0' ++ digits, ?_, by simp,
        ?_, ?_, ?_⟩
      · simp [hexponent, hwhole, zeros]
      · intro c hc
        simp only [List.mem_append, List.mem_singleton] at hc
        rcases hc with rfl | hc | hc
        · rfl
        · exact hzeros _ c hc
        · exact hdigits c hc
      · simp only [List.length_append, List.length_replicate]
        omega
      · have hlength : (exponent + (List.replicate (exponent.natAbs - digits.length) '0' ++
            digits).length).toNat = 0 := by
          simp only [List.length_append, List.length_replicate]
          omega
        rw [hlength, Nat.pow_zero, Nat.mul_one, ← List.append_assoc, ← List.replicate_one,
          List.replicate_append_replicate, ofDigitChars_zeros_append]
    · refine ⟨digits.take (digits.length - exponent.natAbs),
        digits.drop (digits.length - exponent.natAbs), ?_, ?_, ?_, ?_, ?_⟩
      · simp [hexponent, hwhole]
      · simp only [ne_eq, List.take_eq_nil_iff, not_or]
        exact ⟨hwhole, hne⟩
      · rwa [List.take_append_drop]
      · rw [List.length_drop]
        omega
      · have hlength : (exponent + (digits.drop (digits.length - exponent.natAbs)).length).toNat =
            0 := by
          rw [List.length_drop]
          omega
        rw [hlength, Nat.pow_zero, Nat.mul_one, List.take_append_drop]

private theorem exists_toList_scientific {digits : List Char} (hdigits : ∀ c ∈ digits, c.isDigit)
    (hne : digits ≠ []) (lead : Int) :
    ∃ mantissa, (scientific digits lead).toList =
        mantissa ++ 'e' :: (if lead < 0 then '-' else '+') :: Nat.toDigits 10 lead.natAbs ∧
      (∃ c rest, mantissa = c :: rest ∧ c.isDigit) ∧
      (∀ c ∈ mantissa, c.isDigit ∨ c = '.') ∧ mantissa.filter (·.isDigit) = digits := by
  obtain ⟨c, rest, rfl⟩ := List.exists_cons_of_ne_nil hne
  have hc := hdigits c (by simp)
  have hrest : ∀ d ∈ rest, d.isDigit := fun d hd => hdigits d (by simp [hd])
  have hsign : (if lead < 0 then "-" else "+").toList = [if lead < 0 then '-' else '+'] := by
    split <;> rfl
  cases rest with
  | nil =>
    refine ⟨[c], by simp [scientific, hsign], ⟨c, [], rfl, hc⟩, ?_, ?_⟩
    · simp [hc]
    · simp [hc]
  | cons d rest =>
    refine ⟨c :: '.' :: d :: rest, by simp [scientific, hsign], ⟨c, _, rfl, hc⟩, ?_, ?_⟩
    · simp only [List.mem_cons]
      rintro x (rfl | rfl | hx)
      · exact .inl hc
      · exact .inr rfl
      · exact .inl (hrest x (List.mem_cons.mpr hx))
    · have hdot : Char.isDigit '.' = false := rfl
      rw [List.filter_cons_of_pos hc, List.filter_cons_of_neg (by simp [hdot]),
        List.filter_eq_self.mpr hrest]

private theorem not_lt_of_mul_pow_eq {m m' k k' : Nat} (hm' : m' % 10 ≠ 0)
    (h : m * 10 ^ k = m' * 10 ^ k') : ¬k' < k := by
  intro hlt
  obtain ⟨j, rfl⟩ := Nat.exists_eq_add_of_lt hlt
  have hten : 0 < 10 ^ k' := Nat.pow_pos (by decide)
  have hm : m' = m * 10 ^ j * 10 := by
    apply Nat.eq_of_mul_eq_mul_right hten
    rw [← h, Nat.add_assoc, Nat.pow_add, Nat.pow_succ]
    ac_rfl
  exact hm' (hm ▸ Nat.mul_mod_left _ _)

/-- A decimal is determined by its value: the powers of ten are compared beside a common one. -/
theorem eq_of_value_eq {d d' : Decimal} {n : Nat} (hsign : d.negative = d'.negative)
    (hn : 0 ≤ d.exponent + n) (hn' : 0 ≤ d'.exponent + n)
    (h : d.digits * 10 ^ (d.exponent + n).toNat = d'.digits * 10 ^ (d'.exponent + n).toNat) :
    d = d' := by
  obtain ⟨negative, digits, exponent, hnormal⟩ := d
  obtain ⟨negative', digits', exponent', hnormal'⟩ := d'
  simp only at hsign hn hn' h
  have hpow : ∀ k, 10 ^ k ≠ 0 := fun k => Nat.ne_of_gt (Nat.pow_pos (by decide))
  have hzero : digits = 0 ↔ digits' = 0 := by
    constructor
    · rintro rfl
      rw [Nat.zero_mul] at h
      exact (Nat.mul_eq_zero.mp h.symm).resolve_right (hpow _)
    · rintro rfl
      rw [Nat.zero_mul] at h
      exact (Nat.mul_eq_zero.mp h).resolve_right (hpow _)
  rcases hnormal with hlast | ⟨rfl, rfl⟩
  · have hlast' : digits' % 10 ≠ 0 := by
      rcases hnormal' with hlast' | ⟨rfl, -⟩
      · exact hlast'
      · simp [hzero.mpr rfl] at hlast
    have hle := not_lt_of_mul_pow_eq hlast' h
    have hge := not_lt_of_mul_pow_eq hlast h.symm
    obtain rfl : exponent = exponent' := by omega
    obtain rfl : digits = digits' := Nat.eq_of_mul_eq_mul_right (Nat.pos_of_ne_zero (hpow _)) h
    rw [hsign]
  · rcases hnormal' with hlast' | ⟨rfl, rfl⟩
    · simp [hzero.mp rfl] at hlast'
    · rw [hsign]

/-- The written form of a decimal behind its sign. -/
def unsignedChars (d : Decimal) : List Char :=
  let digits := Nat.toDigits 10 d.digits
  let lead := d.exponent + digits.length - 1
  if -5 ≤ lead ∧ lead < 16 then (positional digits d.exponent).toList
  else (scientific digits lead).toList

private theorem toList_text (d : Decimal) :
    d.text.toList = signedChars d.negative d.unsignedChars := by
  have hminus : "-".toList = ['-'] := rfl
  unfold text unsignedChars signedChars
  simp only [String.toList_append, apply_ite String.toList, hminus, String.toList_empty]
  cases d.negative <;> simp only [Bool.false_eq_true, if_false, if_true, List.nil_append,
    List.singleton_append]

private theorem unsignedChars_cases (d : Decimal) :
    (∃ whole fraction, d.unsignedChars = whole ++ '.' :: fraction ∧
      whole ≠ [] ∧ (∀ c ∈ whole ++ fraction, c.isDigit) ∧ 0 ≤ d.exponent + fraction.length ∧
      Nat.ofDigitChars 10 (whole ++ fraction) 0 =
        d.digits * 10 ^ (d.exponent + fraction.length).toNat) ∨
    ∃ mantissa lead, d.unsignedChars =
        mantissa ++ 'e' :: (if lead < 0 then '-' else '+') :: Nat.toDigits 10 lead.natAbs ∧
      lead = d.exponent + (Nat.toDigits 10 d.digits).length - 1 ∧
      (∃ c rest, mantissa = c :: rest ∧ c.isDigit) ∧
      (∀ c ∈ mantissa, c.isDigit ∨ c = '.') ∧
      mantissa.filter (·.isDigit) = Nat.toDigits 10 d.digits := by
  have hdigits : ∀ c ∈ Nat.toDigits 10 d.digits, c.isDigit := fun c => isDigit_of_mem_toDigits
  by_cases hlead : -5 ≤ d.exponent + (Nat.toDigits 10 d.digits).length - 1 ∧
      d.exponent + (Nat.toDigits 10 d.digits).length - 1 < 16
  · left
    simp only [unsignedChars, if_pos hlead]
    obtain ⟨whole, fraction, h⟩ :=
      exists_toList_positional hdigits Nat.toDigits_ne_nil d.exponent
    rw [Nat.ofDigitChars_ten_toDigits] at h
    exact ⟨whole, fraction, h⟩
  · right
    simp only [unsignedChars, if_neg hlead]
    obtain ⟨mantissa, h, hrest⟩ := exists_toList_scientific hdigits Nat.toDigits_ne_nil
      (d.exponent + (Nat.toDigits 10 d.digits).length - 1)
    exact ⟨mantissa, _, h, rfl, hrest⟩

private theorem exists_unsignedChars_cons (d : Decimal) :
    ∃ c rest, d.unsignedChars = c :: rest ∧ c.isDigit := by
  rcases d.unsignedChars_cases with ⟨whole, fraction, h, hne, hdigits, -⟩ |
    ⟨mantissa, lead, h, -, ⟨c, rest, rfl, hc⟩, -⟩
  · obtain ⟨c, rest, rfl⟩ := List.exists_cons_of_ne_nil hne
    exact ⟨c, _, h, hdigits c (by simp)⟩
  · exact ⟨c, _, h, hc⟩

private theorem unsignedChars_chars (d : Decimal) :
    (∀ c ∈ d.unsignedChars, IsNumberChar c) ∧ ('.' ∈ d.unsignedChars ∨ 'e' ∈ d.unsignedChars) := by
  rcases d.unsignedChars_cases with ⟨whole, fraction, h, -, hdigits, -⟩ |
    ⟨mantissa, lead, h, -, -, hmantissa, -⟩
  · simp only [h, List.mem_append, List.mem_cons, or_true, true_or, and_true]
    rintro c (hc | rfl | hc)
    · exact .inl (hdigits c (List.mem_append_left _ hc))
    · simp [IsNumberChar]
    · exact .inl (hdigits c (List.mem_append_right _ hc))
  · simp only [h, List.mem_append, List.mem_cons, or_true, true_or, and_true]
    rintro c (hc | rfl | rfl | hc)
    · rcases hmantissa c hc with hc | rfl
      · exact .inl hc
      · simp [IsNumberChar]
    · simp [IsNumberChar]
    · split <;> simp [IsNumberChar]
    · exact .inl (isDigit_of_mem_toDigits hc)

private theorem eq_of_unsignedChars_eq {d d' : Decimal} (hsign : d.negative = d'.negative)
    (h : d.unsignedChars = d'.unsignedChars) : d = d' := by
  have hdigit : ∀ {c : Char}, c.isDigit → c ≠ '.' ∧ c ≠ 'e' := by
    rintro c hc
    constructor <;> rintro rfl <;> cases hc
  rcases d.unsignedChars_cases with ⟨whole, fraction, hd, -, hdigits, hn, hvalue⟩ |
    ⟨mantissa, lead, hd, hlead, -, hmantissa, hfilter⟩ <;>
  rcases d'.unsignedChars_cases with ⟨whole', fraction', hd', -, hdigits', hn', hvalue'⟩ |
    ⟨mantissa', lead', hd', hlead', -, hmantissa', hfilter'⟩ <;>
  rw [hd, hd'] at h
  · obtain ⟨rfl, rfl⟩ := append_cons_inj_of_not_mem
      (fun hc => (hdigit (hdigits _ (List.mem_append_left _ hc))).1 rfl)
      (fun hc => (hdigit (hdigits' _ (List.mem_append_left _ hc))).1 rfl) h
    exact eq_of_value_eq hsign hn hn' (hvalue.symm.trans hvalue')
  · have he : 'e' ∈ whole ++ '.' :: fraction := h ▸ by simp
    simp only [List.mem_append, List.mem_cons, Char.reduceEq, false_or] at he
    exact absurd rfl (hdigit (hdigits _ (List.mem_append.mpr he))).2
  · have he : 'e' ∈ whole' ++ '.' :: fraction' := h ▸ by simp
    simp only [List.mem_append, List.mem_cons, Char.reduceEq, false_or] at he
    exact absurd rfl (hdigit (hdigits' _ (List.mem_append.mpr he))).2
  · have hno : ∀ {m : List Char}, (∀ c ∈ m, c.isDigit ∨ c = '.') → 'e' ∉ m := fun hm hc => by
      rcases hm _ hc with hc | hc <;> cases hc
    obtain ⟨rfl, htail⟩ := append_cons_inj_of_not_mem (hno hmantissa) (hno hmantissa') h
    obtain ⟨hexponent, hnatAbs⟩ := List.cons.inj htail
    have hdigits : d.digits = d'.digits := toDigits_injective (hfilter.symm.trans hfilter')
    have hleads : lead = lead' := by
      have := toDigits_injective hnatAbs
      split at hexponent <;> split at hexponent <;> first | omega | cases hexponent
    have hexponents : d.exponent = d'.exponent := by
      rw [hdigits] at hlead
      omega
    cases d
    cases d'
    simp_all

end Decimal

/-! ### Numbers -/

namespace Number

private theorem exists_toList_text (n : Number) :
    ∃ negative c rest, n.text.toList = signedChars negative (c :: rest) ∧ c.isDigit ∧
      ∀ d ∈ c :: rest, IsNumberChar d := by
  cases n with
  | integer n =>
    obtain ⟨c, rest, h, hc⟩ := exists_toDigits_cons n.natAbs
    exact ⟨_, c, rest, h ▸ toList_toString_int n, hc,
      fun d hd => .inl (isDigit_of_mem_toDigits (h ▸ hd))⟩
  | decimal d =>
    obtain ⟨c, rest, h, hc⟩ := d.exists_unsignedChars_cons
    exact ⟨_, c, rest, h ▸ d.toList_text, hc, h ▸ d.unsignedChars_chars.1⟩

/-- A written number is made of characters of numbers. -/
theorem isNumberChar_of_mem_text {n : Number} {c : Char} (h : c ∈ n.text.toList) :
    IsNumberChar c := by
  obtain ⟨negative, d, rest, htext, -, hchars⟩ := n.exists_toList_text
  rw [htext] at h
  cases negative with
  | false => exact hchars c h
  | true =>
    rcases List.mem_cons.mp h with rfl | h
    · exact .inr (.inl rfl)
    · exact hchars c h

/-- A written number starts with a digit or a minus sign. -/
theorem exists_text_cons (n : Number) :
    ∃ c rest, n.text.toList = c :: rest ∧ (c.isDigit ∨ c = '-') := by
  obtain ⟨negative, c, rest, htext, hc, -⟩ := n.exists_toList_text
  cases negative with
  | false => exact ⟨c, rest, htext, .inl hc⟩
  | true => exact ⟨'-', c :: rest, htext, .inr rfl⟩

private theorem toDigits_ne_unsignedChars (n : Nat) (d : Decimal) :
    Nat.toDigits 10 n ≠ d.unsignedChars := fun h => by
  rcases d.unsignedChars_chars.2 with hc | hc <;> rw [← h] at hc <;>
    cases isDigit_of_mem_toDigits hc

/-- Different numbers are written differently. -/
theorem text_injective : Function.Injective text := by
  intro n m h
  have hchars : n.text.toList = m.text.toList := congrArg String.toList h
  cases n with
  | integer n =>
    cases m with
    | integer m =>
      simp only [text, toList_toString_int] at hchars
      obtain ⟨hsign, hdigits⟩ :=
        signedChars_inj (exists_toDigits_cons _) (exists_toDigits_cons _) hchars
      have hnatAbs := toDigits_injective hdigits
      have hneg : n < 0 ↔ m < 0 := by simpa using hsign
      exact congrArg integer (by omega)
    | decimal d =>
      simp only [text, toList_toString_int, d.toList_text] at hchars
      exact absurd (signedChars_inj (exists_toDigits_cons _) d.exists_unsignedChars_cons hchars).2
        (toDigits_ne_unsignedChars _ _)
  | decimal d =>
    cases m with
    | integer m =>
      simp only [text, toList_toString_int, d.toList_text] at hchars
      have hbody := (signedChars_inj d.exists_unsignedChars_cons (exists_toDigits_cons _) hchars).2
      exact absurd hbody.symm (toDigits_ne_unsignedChars _ _)
    | decimal d' =>
      simp only [text, Decimal.toList_text] at hchars
      obtain ⟨hsign, hbody⟩ :=
        signedChars_inj d.exists_unsignedChars_cons d'.exists_unsignedChars_cons hchars
      exact congrArg decimal (Decimal.eq_of_unsignedChars_eq hsign hbody)

end Number

/-! ### Integers read back -/

/-- A number that a document keeps exactly: an integer of 64 bits, signed or unsigned. -/
def Number.IsExact : Number → Prop
  | .integer n => -2 ^ 63 ≤ n ∧ n < 2 ^ 64
  | .decimal _ => False

instance : DecidablePred Number.IsExact
  | .integer n => inferInstanceAs (Decidable (-2 ^ 63 ≤ n ∧ n < 2 ^ 64))
  | .decimal _ => .isFalse id

namespace Numeral

/-- The value of a digit as a character. -/
def digitOf (c : Char) : Nat := c.toNat - '0'.toNat

/-- The numeral that an integer is written as. -/
def ofInt (n : Int) : Numeral :=
  ⟨decide (n < 0), (Nat.toDigits 10 n.natAbs).map digitOf, none, none⟩

/-- What may stand behind a numeral: nothing that it could go on with. -/
def EndsNumeral (rest : List Symbol) : Prop :=
  ∀ s ∈ rest.head?, isDigit s = false ∧ s ≠ .char '.' ∧ s ≠ .char 'e' ∧ s ≠ .char 'E'

/-- The end of a document ends a numeral. -/
theorem endsNumeral_nil : EndsNumeral [] := by
  simp [EndsNumeral]

private theorem digits1_append {ds : List Char} (hne : ds ≠ []) (hdigits : ∀ c ∈ ds, c.isDigit)
    {rest : List Symbol} (hrest : EndsNumeral rest) :
    digits1 (ds.map .char ++ rest) = .ok (ds.map digitOf, rest) := by
  have hisDigit : ∀ s ∈ ds.map Symbol.char, isDigit s = true := by
    intro s hs
    obtain ⟨c, hc, rfl⟩ := List.mem_map.mp hs
    simp [isDigit, digit?, hdigits c hc]
  have hstop : rest.takeWhile isDigit = [] ∧ rest.dropWhile isDigit = rest := by
    cases rest with
    | nil => exact ⟨rfl, rfl⟩
    | cons s rest => simp [(hrest s rfl).1]
  have hvalues : (ds.map Symbol.char).filterMap digit? = ds.map digitOf := by
    clear hne hisDigit
    induction ds with
    | nil => rfl
    | cons c ds ih =>
      have hc := hdigits c (by simp)
      rw [List.map_cons, List.map_cons, ← ih fun c hc => hdigits c (.tail _ hc)]
      exact List.filterMap_cons_some (by simp [digit?, hc, digitOf])
  obtain ⟨c, ds', rfl⟩ := List.exists_cons_of_ne_nil hne
  have hfirst := hisDigit (.char c) (by simp)
  rw [List.map_cons, List.cons_append, digits1, if_pos hfirst, ← List.cons_append,
    ← List.map_cons, List.takeWhile_append_of_pos hisDigit, hstop.1, List.append_nil, hvalues]
  have hdrop : ((c :: ds').map Symbol.char ++ rest).dropWhile isDigit = rest.dropWhile isDigit :=
    List.dropWhile_append_of_pos hisDigit
  rw [List.map_cons, List.cons_append, List.dropWhile_cons_of_pos hfirst] at hdrop
  rw [hdrop, hstop.2]

private theorem head?_digits_ne_zero {n : Nat} (hn : n ≠ 0) :
    ((Nat.toDigits 10 n).map digitOf).head? ≠ some 0 := by
  induction n using Nat.strongRecOn with
  | _ n ih =>
    by_cases hlt : n < 10
    · have hdigit := Nat.toNat_digitChar_sub_48_of_lt_ten hlt
      simpa [Nat.toDigits_of_lt_base hlt, digitOf, hdigit] using hn
    · have hhead := ih (n / 10) (by omega) (by omega)
      obtain ⟨c, rest, hc⟩ :=
        List.exists_cons_of_ne_nil (Nat.toDigits_ne_nil (n := n / 10) (b := 10))
      rw [hc] at hhead
      rw [Nat.toDigits_of_base_le (by decide) (by omega), hc]
      exact hhead

private theorem digits_ne_zero_cons (n d : Nat) (ds : List Nat) :
    (Nat.toDigits 10 n).map digitOf ≠ 0 :: d :: ds := by
  intro h
  by_cases hn : n = 0
  · subst hn
    simp at h
  · exact head?_digits_ne_zero hn (by rw [h]; rfl)

/-- The digits of a number spell it. -/
theorem valueOf_digits (n : Nat) : valueOf ((Nat.toDigits 10 n).map digitOf) = n := by
  rw [valueOf, List.foldl_map]
  exact Nat.ofDigitChars_ten_toDigits

private theorem scanWhole_toDigits (n : Nat) {rest : List Symbol} (hrest : EndsNumeral rest) :
    scanWhole ((Nat.toDigits 10 n).map .char ++ rest) =
      .ok ((Nat.toDigits 10 n).map digitOf, rest) := by
  have hdigits := digits1_append Nat.toDigits_ne_nil
    (fun c hc => isDigit_of_mem_toDigits (n := n) hc) hrest
  rw [scanWhole, hdigits]
  simp only [bind, Except.bind]
  split
  next h => exact absurd h (digits_ne_zero_cons n _ _)
  next => rfl

/-- A written integer is read as its numeral. -/
theorem scan_toString_int (n : Int) {rest : List Symbol} (hrest : EndsNumeral rest) :
    scan ((toString n).toList.map .char ++ rest) = .ok (ofInt n, rest) := by
  have hminus : scanMinus ((toString n).toList.map .char ++ rest) =
      (decide (n < 0), (Nat.toDigits 10 n.natAbs).map .char ++ rest) := by
    rw [toList_toString_int]
    cases decide (n < 0) with
    | true => rfl
    | false =>
      obtain ⟨c, ds, hc, hdigit⟩ := exists_toDigits_cons n.natAbs
      rw [signedChars, if_neg (by simp), hc, List.map_cons, List.cons_append, scanMinus]
      rintro _ heq
      obtain ⟨hchar, -⟩ := List.cons.inj heq
      cases hchar
      cases hdigit
  have hfraction : scanFraction rest = .ok (none, rest) := by
    cases rest with
    | nil => rfl
    | cons s rest =>
      rw [scanFraction]
      rintro _ heq
      exact (hrest s rfl).2.1 (List.cons.inj heq).1
  have hexponent : scanExponent rest = .ok (none, rest) := by
    cases rest with
    | nil => rfl
    | cons s rest =>
      obtain ⟨-, -, he, hE⟩ := hrest s rfl
      cases s with
      | stray => rfl
      | char c =>
        have hletter : ¬(c = 'e' ∨ c = 'E') := by
          rintro (rfl | rfl)
          · exact he rfl
          · exact hE rfl
        rw [scanExponent, if_neg hletter]
  rw [scan, hminus, scanWhole_toDigits _ hrest]
  simp only [Except.bind, hfraction, hexponent, Except.map, ofInt]

/-- The numeral of an integer of 64 bits stands for that integer. -/
theorem number?_ofInt {n : Int} (h : (Number.integer n).IsExact) :
    (ofInt n).number? = some (.integer n) := by
  obtain ⟨hlow, hhigh⟩ := h
  simp only [number?, ofInt, valueOf_digits, maxNegated, maxSignificand]
  by_cases hneg : n < 0
  · have hsize : 0 < n.natAbs ∧ n.natAbs ≤ 0x8000000000000000 := by omega
    have hvalue : -(n.natAbs : Int) = n := by omega
    simp only [hneg, decide_true, if_true, hsize, and_self, hvalue]
  · have hsize : n.natAbs ≤ 0xFFFFFFFFFFFFFFFF := by omega
    have hvalue : (n.natAbs : Int) = n := by omega
    simp only [hneg, decide_false, Bool.false_eq_true, if_false, hsize, if_true, hvalue]

end Numeral

end ApiBindings.Json
