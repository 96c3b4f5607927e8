/-!
# Decimal numbers

The decimal that stands for a number which is not an integer of the document: a digit string and
a power of ten, with no zero at the end of the digits, so that equal numbers are equal data.

Numbers from `0.00001` up to `10^16` are written in full, always with a fraction; all others with
one digit before the point and an exponent, which shows its sign.
-/

namespace ApiBindings.Json

/-- The number `digits * 10 ^ exponent`, negated if `negative`. -/
structure Decimal where
  negative : Bool
  digits : Nat
  exponent : Int
  normal : digits % 10 ≠ 0 ∨ digits = 0 ∧ exponent = 0 := by decide
  deriving DecidableEq, Repr

namespace Decimal

/-- Zero keeps a sign. -/
def zero (negative : Bool) : Decimal := ⟨negative, 0, 0, .inr ⟨rfl, rfl⟩⟩

/-- The decimal of any digits and exponent: zeros at the end of the digits move to the exponent. -/
def ofParts (negative : Bool) (digits : Nat) (exponent : Int) : Decimal :=
  if h₀ : digits = 0 then zero negative
  else if h : digits % 10 ≠ 0 then ⟨negative, digits, exponent, .inl h⟩
  else ofParts negative (digits / 10) (exponent + 1)
termination_by digits
decreasing_by omega

/-- A run of zeros. -/
def zeros (n : Nat) : String := String.ofList (List.replicate n '0')

/-- The digits with the point behind the first one, and the exponent of that digit. -/
def scientific (digits : List Char) (lead : Int) : String :=
  let tail := match digits.tail with
    | [] => ""
    | more => "." ++ String.ofList more
  String.ofList (digits.take 1) ++ tail ++ "e" ++ (if lead < 0 then "-" else "+") ++
    toString lead.natAbs

/-- The digits with as many zeros as it takes to show the point. -/
def positional (digits : List Char) (exponent : Int) : String :=
  if 0 ≤ exponent then String.ofList digits ++ zeros exponent.toNat ++ ".0"
  else
    let whole := digits.length - exponent.natAbs
    if whole = 0 then "0." ++ zeros (exponent.natAbs - digits.length) ++ String.ofList digits
    else String.ofList (digits.take whole) ++ "." ++ String.ofList (digits.drop whole)

/-- The written form of a decimal. -/
def text (d : Decimal) : String :=
  let digits := Nat.toDigits 10 d.digits
  let lead := d.exponent + digits.length - 1
  (if d.negative then "-" else "") ++
    if -5 ≤ lead ∧ lead < 16 then positional digits d.exponent else scientific digits lead

end Decimal

end ApiBindings.Json
