import ApiBindings.Json.Double
import ApiBindings.Json.Symbol

/-!
# Numerals

The spelling of a number in a document and the number it stands for. An integer that fits 64 bits,
signed or unsigned, is kept exactly; every other numeral stands for a double.

The double of a numeral is computed in two steps: the digits are gathered into a 64-bit
significand, dropping those that no longer fit, and the significand is then multiplied or divided
by a power of ten. Each step rounds.
-/

namespace ApiBindings.Json

/-- A number of a document. -/
inductive Number where
  | integer (n : Int)
  | decimal (d : Decimal)
  deriving DecidableEq, Repr

/-- The written form of a number. -/
def Number.text : Number → String
  | .integer n => toString n
  | .decimal d => d.text

/-- The parts of a numeral. The fraction is absent if there is no point. -/
structure Numeral where
  negative : Bool
  whole : List Nat
  fraction : Option (List Nat)
  exponent : Option Int
  deriving DecidableEq, Repr

/-- Why a numeral cannot be read: a digit is missing or a zero leads other digits, or the document
ends where a digit is due. -/
inductive NumeralFlaw where
  | malformed
  | cutShort
  deriving DecidableEq, Repr

namespace Numeral

/-- The value of a digit. -/
def digit? : Symbol → Option Nat
  | .char c => if c.isDigit then some (c.toNat - '0'.toNat) else none
  | .stray => none

/-- Whether a symbol is a digit. -/
def isDigit (s : Symbol) : Bool := (digit? s).isSome

/-- The digits at the front, of which there must be one, and what follows them. -/
def digits1 : List Symbol → Except NumeralFlaw (List Nat × List Symbol)
  | [] => .error .cutShort
  | s :: rest =>
    if isDigit s then .ok (((s :: rest).takeWhile isDigit).filterMap digit?, rest.dropWhile isDigit)
    else .error .malformed

private theorem length_digits1 {source rest : List Symbol} {ds : List Nat}
    (h : digits1 source = .ok (ds, rest)) : rest.length < source.length := by
  cases source with
  | nil => cases h
  | cons s tail =>
    simp only [digits1] at h
    split at h
    · cases h
      exact Nat.lt_succ_of_le (List.dropWhile_suffix _).length_le
    · cases h

/-- Digits before the point: a leading zero stands alone. -/
def scanWhole (source : List Symbol) : Except NumeralFlaw (List Nat × List Symbol) := do
  let (ds, rest) ← digits1 source
  match ds with
  | 0 :: _ :: _ => .error .malformed
  | _ => return (ds, rest)

private theorem length_scanWhole {source rest : List Symbol} {ds : List Nat}
    (h : scanWhole source = .ok (ds, rest)) : rest.length < source.length := by
  unfold scanWhole at h
  cases hd : digits1 source with
  | error => rw [hd] at h; cases h
  | ok found =>
    rw [hd] at h
    have hl := length_digits1 hd
    change (match found.1 with
      | 0 :: _ :: _ => Except.error NumeralFlaw.malformed
      | _ => Except.ok (found.1, found.2)) = _ at h
    split at h
    · cases h
    · cases h
      exact hl

/-- A point and digits, or nothing. -/
def scanFraction : List Symbol → Except NumeralFlaw (Option (List Nat) × List Symbol)
  | .char '.' :: rest => (digits1 rest).map fun (ds, rest) => (some ds, rest)
  | source => .ok (none, source)

private theorem length_scanFraction {source rest : List Symbol} {ds : Option (List Nat)}
    (h : scanFraction source = .ok (ds, rest)) : rest.length ≤ source.length := by
  unfold scanFraction at h
  split at h
  next tail =>
    cases hd : digits1 tail with
    | error => rw [hd] at h; cases h
    | ok found =>
      rw [hd] at h
      cases h
      exact Nat.le_succ_of_le (Nat.le_of_lt (length_digits1 hd))
  next =>
    cases h
    exact Nat.le_refl _

/-- The number that digits spell. -/
def valueOf (ds : List Nat) : Nat := ds.foldl (fun n d => 10 * n + d) 0

/-- Whether a minus sign stands in front, and what follows a sign of either kind. -/
def scanSign : List Symbol → Bool × List Symbol
  | .char '-' :: rest => (true, rest)
  | .char '+' :: rest => (false, rest)
  | source => (false, source)

private theorem length_scanSign (source : List Symbol) :
    (scanSign source).2.length ≤ source.length := by
  unfold scanSign
  split <;> simp

/-- An exponent with its sign, or nothing. -/
def scanExponent : List Symbol → Except NumeralFlaw (Option Int × List Symbol)
  | .char c :: rest =>
    if c = 'e' ∨ c = 'E' then
      (digits1 (scanSign rest).2).map fun (ds, left) =>
        (some (if (scanSign rest).1 then -(valueOf ds : Int) else valueOf ds), left)
    else .ok (none, .char c :: rest)
  | source => .ok (none, source)

private theorem length_scanExponent {source rest : List Symbol} {e : Option Int}
    (h : scanExponent source = .ok (e, rest)) : rest.length ≤ source.length := by
  unfold scanExponent at h
  split at h
  next c tail =>
    split at h
    · cases hd : digits1 (scanSign tail).2 with
      | error => rw [hd] at h; cases h
      | ok found =>
        rw [hd] at h
        cases h
        exact Nat.le_succ_of_le
          (Nat.le_trans (Nat.le_of_lt (length_digits1 hd)) (length_scanSign tail))
    · cases h
      exact Nat.le_refl _
  next =>
    cases h
    exact Nat.le_refl _

/-- Whether a minus sign stands in front, and what follows it. -/
def scanMinus : List Symbol → Bool × List Symbol
  | .char '-' :: rest => (true, rest)
  | source => (false, source)

private theorem length_scanMinus (source : List Symbol) :
    (scanMinus source).2.length ≤ source.length := by
  unfold scanMinus
  split <;> simp

/-- Reads the numeral at the front of a document. -/
def scan (source : List Symbol) : Except NumeralFlaw (Numeral × List Symbol) :=
  (scanWhole (scanMinus source).2).bind fun (whole, rest) =>
    (scanFraction rest).bind fun (fraction, rest) =>
      (scanExponent rest).map fun (exponent, rest) =>
        (⟨(scanMinus source).1, whole, fraction, exponent⟩, rest)

/-- A numeral takes a symbol away. -/
theorem length_scan {source rest : List Symbol} {n : Numeral}
    (h : scan source = .ok (n, rest)) : rest.length < source.length := by
  unfold scan at h
  cases hw : scanWhole (scanMinus source).2 with
  | error => rw [hw] at h; cases h
  | ok whole =>
    cases hf : scanFraction whole.2 with
    | error => simp only [hw, Except.bind, hf] at h; cases h
    | ok fraction =>
      cases he : scanExponent fraction.2 with
      | error => simp only [hw, Except.bind, hf, he] at h; cases h
      | ok exponent =>
        simp only [hw, Except.bind, hf, he] at h
        cases h
        have := length_scanMinus source
        have := length_scanWhole hw
        have := length_scanFraction hf
        have := length_scanExponent he
        omega

/-- The greatest significand. -/
def maxSignificand : Nat := 0xFFFFFFFFFFFFFFFF

/-- The greatest size of a negative integer that is kept exactly. -/
def maxNegated : Nat := 0x8000000000000000

/-- Appends digits to a significand as long as it fits; the digits left over come second. -/
def gather (significand : Nat) : List Nat → Nat × List Nat
  | [] => (significand, [])
  | d :: rest =>
    if 10 * significand + d ≤ maxSignificand then gather (10 * significand + d) rest
    else (significand, d :: rest)

/-- Greatest power of ten that a double holds. -/
def maxPower : Int := 308

/-- The double next to `10 ^ n`. -/
def powerOfTen (n : Nat) : Float := Float.ofScientific 1 false n

/-- `significand * 10 ^ exponent` with one rounding per step, or none if it is too great for a
double. Small exponents take two divisions, and the smallest give zero. -/
def scaled? (significand : Nat) (exponent : Int) : Option Float :=
  let f := significand.toUInt64.toFloat
  if significand = 0 then some 0
  else if maxPower < exponent then none
  else if 0 ≤ exponent then
    let product := f * powerOfTen exponent.toNat
    if product.isInf then none else some product
  else if -maxPower ≤ exponent then some (f / powerOfTen exponent.natAbs)
  else if -2 * maxPower ≤ exponent then
    some (f / powerOfTen maxPower.toNat / powerOfTen (exponent + maxPower).natAbs)
  else some 0

/-- The double that a numeral stands for, if it is not too great. -/
def double? (n : Numeral) : Option Decimal :=
  let (significand, dropped) := gather 0 n.whole
  let fraction := n.fraction.getD []
  let (significand, ignored) := gather significand fraction
  let shift : Int := dropped.length - (fraction.length - ignored.length : Nat)
  (scaled? significand (shift + n.exponent.getD 0)).map fun f =>
    Decimal.ofFloat (if n.negative then -f else f)

/-- The number that a numeral stands for, if it is in range. -/
def number? (n : Numeral) : Option Number :=
  match n.fraction, n.exponent with
  | none, none =>
    let value := valueOf n.whole
    if n.negative then
      if 0 < value ∧ value ≤ maxNegated then some (.integer (-value)) else n.double?.map .decimal
    else if value ≤ maxSignificand then some (.integer value)
    else n.double?.map .decimal
  | _, _ => n.double?.map .decimal

end Numeral

end ApiBindings.Json
