/-!
# Binary floating point, exactly

A double is its 64-bit word. A finite word stands for `m · 2^q` with natural `m`; `ofDecimal`
rounds a decimal, `mul?` a product and `div?` a quotient to the nearest word, ties to even, in
exact natural arithmetic.
-/

namespace DeviceLink

/-- A double, by its word: sign, eleven bits of exponent, 52 bits of fraction. -/
structure Double where
  bits : UInt64
  deriving DecidableEq, Repr, Inhabited

namespace Double

/-- The sign bit. -/
def isNegative (d : Double) : Bool := Nat.pow 2 63 ≤ d.bits.toNat

/-- The exponent field. -/
def exponentField (d : Double) : Nat := d.bits.toNat / Nat.pow 2 52 % Nat.pow 2 11

/-- The fraction field. -/
def fractionField (d : Double) : Nat := d.bits.toNat % Nat.pow 2 52

/-- Neither infinite nor a NaN. -/
def isFinite (d : Double) : Bool := d.exponentField ≠ 2047

/-- Not a number. -/
def isNaN (d : Double) : Bool := d.exponentField = 2047 ∧ d.fractionField ≠ 0

/-- The factor `m` of a finite double `± m · 2^q`. -/
def significand (d : Double) : Nat :=
  if d.exponentField = 0 then d.fractionField else Nat.pow 2 52 + d.fractionField

/-- The exponent `q` of a finite double `± m · 2^q`. -/
def exponent (d : Double) : Int :=
  if d.exponentField = 0 then -1074 else (d.exponentField : Int) - 1075

/-- The double with a sign and the rest of its word. -/
def ofMagnitude (negative : Bool) (magnitude : Nat) : Double :=
  ⟨UInt64.ofNat (magnitude + if negative then Nat.pow 2 63 else 0)⟩

/-- Zero, with its sign. -/
def zero (negative : Bool) : Double := ofMagnitude negative 0

/-- An infinity. -/
def infinity (negative : Bool) : Double := ofMagnitude negative (2047 * Nat.pow 2 52)

/-- A NaN. -/
def nan : Double := ofMagnitude false (2047 * Nat.pow 2 52 + Nat.pow 2 51)

/-- The quotient rounded to the nearest natural number, a tie to the even one. -/
def roundDiv (num den : Nat) : Nat :=
  let quotient := num / den
  let twice := 2 * (num % den)
  if twice < den then quotient
  else if den < twice then quotient + 1
  else quotient + quotient % 2

/-- Two to a power, as numerator and denominator. -/
def scale (num den : Nat) (power : Int) : Nat × Nat :=
  (num * Nat.pow 2 power.toNat, den * Nat.pow 2 (-power).toNat)

/-- The double nearest to the positive ratio `num / den`, or nothing if that is beyond the
largest finite one. -/
def ofRatio (negative : Bool) (num den : Nat) : Option Double :=
  let guess : Int := (Nat.log2 num : Int) - Nat.log2 den - 53
  let fits (q : Int) : Bool :=
    let (n, d) := scale num den (-q)
    n < Nat.pow 2 53 * d
  let q := max (if fits guess then guess else guess + 1) (-1074)
  let (n, d) := scale num den (-q)
  let magnitude := (q + 1074).toNat * Nat.pow 2 52 + roundDiv n d
  if magnitude < 2047 * Nat.pow 2 52 then some (ofMagnitude negative magnitude) else none

/-- The double nearest to `± digits · 10^power`, or nothing if that is beyond the largest
finite one. `2^least` and `2^most` bound the value (`2^3 < 10 < 2^4`); where they settle the
answer, no power of ten is computed. -/
def ofDecimal (negative : Bool) (digits : Nat) (power : Int) : Option Double :=
  if digits = 0 then some (zero negative)
  else
    let size : Int := Nat.log2 digits
    let least := size + if 0 ≤ power then 3 * power else 4 * power
    let most := size + 1 + if 0 ≤ power then 4 * power else 3 * power
    if 1100 < least then none
    else if most < -1200 then some (zero negative)
    else ofRatio negative (digits * Nat.pow 10 power.toNat) (Nat.pow 10 (-power).toNat)

/-! ## Arithmetic -/

/-- The double nearest to the ratio `num / den`, which may be zero, or nothing if that is beyond
the largest finite one. -/
def nearest (negative : Bool) (num den : Nat) : Option Double :=
  if num = 0 then some (zero negative) else ofRatio negative num den

/-- The product of two finite doubles, rounded to the nearest one. -/
def mul? (a b : Double) : Option Double :=
  let (num, den) := scale (a.significand * b.significand) 1 (a.exponent + b.exponent)
  nearest (a.isNegative != b.isNegative) num den

/-- The quotient of two finite doubles, the second not zero, rounded to the nearest one. -/
def div? (a b : Double) : Option Double :=
  let (num, den) := scale a.significand b.significand (a.exponent - b.exponent)
  nearest (a.isNegative != b.isNegative) num den

end Double

end DeviceLink
