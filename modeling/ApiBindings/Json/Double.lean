import ApiBindings.Json.Decimal

/-!
# Doubles as decimals

The shortest decimal that names a double: of the decimals which round to it, those with the fewest
digits, and of these the nearest. All arithmetic on the double's value is exact.
-/

namespace ApiBindings.Json

/-- The reals that round to a positive double, as numerators over a common denominator. The ends
belong to the interval when the double's significand is even. -/
structure RoundingInterval where
  low : Nat
  value : Nat
  high : Nat
  unit : Nat
  closed : Bool

namespace RoundingInterval

/-- The interval around `significand * 2 ^ exponent`. The gap below a power of two is half the gap
above it, unless the double is the least one of its size. -/
def ofParts (significand : Nat) (exponent : Int) (narrow : Bool) : RoundingInterval :=
  let shift := (exponent - 2).toNat
  { low := (4 * significand - if narrow then 1 else 2) <<< shift
    value := (4 * significand) <<< shift
    high := (4 * significand + 2) <<< shift
    unit := 1 <<< (2 - exponent).toNat
    closed := significand % 2 == 0 }

/-- Whether `n / unit` lies in the interval. -/
def contains (i : RoundingInterval) (n : Nat) : Bool :=
  if i.closed then i.low ≤ n && n ≤ i.high else i.low < n && n < i.high

/-- Multiplies every number of the interval, and so the value, by `k`. -/
def scale (i : RoundingInterval) (k : Nat) : RoundingInterval :=
  { i with low := i.low * k, value := i.value * k, high := i.high * k }

/-- The multiple of `grid` in the interval that is nearest to the value, if there is one. Of two
equally near the even multiple is taken. -/
def multiple? (i : RoundingInterval) (grid : Nat) : Option Nat :=
  let step := grid * i.unit
  let below := i.value / step
  let down := i.value - below * step
  let up := (below + 1) * step - i.value
  match i.contains (below * step), i.contains ((below + 1) * step) with
  | false, false => none
  | true, false => some below
  | false, true => some (below + 1)
  | true, true => some (if down < up || (down == up && below % 2 == 0) then below else below + 1)

/-- The coarsest power of ten up to `10 ^ g` with a multiple in the interval: that multiple and
the exponent of the power. -/
def coarsest (i : RoundingInterval) : Nat → Nat × Nat
  | 0 => ((i.multiple? 1).getD (i.value / i.unit), 0)
  | g + 1 =>
    match i.multiple? (Nat.pow 10 (g + 1)) with
    | some n => (n, g + 1)
    | none => i.coarsest g

end RoundingInterval

/-- Finest power of ten that a double's digits are looked for on. -/
def finestExponent : Nat := 324

/-- The shortest decimal that rounds to `significand * 2 ^ exponent`. -/
def shortestDecimal (negative : Bool) (significand : Nat) (exponent : Int) (narrow : Bool) :
    Decimal :=
  let interval :=
    (RoundingInterval.ofParts significand exponent narrow).scale (Nat.pow 10 finestExponent)
  let size := (Nat.toDigits 10 (significand <<< exponent.toNat)).length
  let (n, g) := interval.coarsest (finestExponent + size)
  Decimal.ofParts negative n (g - finestExponent)

/-- The leading bit of a significand, which a double does not store. -/
def hiddenBit : Nat := 1 <<< 52

/-- The shortest decimal that names a finite double. -/
def Decimal.ofFloat (f : Float) : Decimal :=
  let bits : Nat := f.toBits.toNat
  let negative := bits >>> 63 == 1
  let field := (bits >>> 52) % 0x800
  let fraction := bits % hiddenBit
  if field = 0 then
    if fraction = 0 then Decimal.zero negative
    else shortestDecimal negative fraction (-1074) false
  else
    shortestDecimal negative (hiddenBit + fraction) (field - 1075 : Int)
      (fraction == 0 && field > 1)

end ApiBindings.Json
