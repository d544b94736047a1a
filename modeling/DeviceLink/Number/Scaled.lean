import DeviceLink.Number.Double
/-!
# Decimals in floating point

A decimal `significand · 10^power` taken to a double by one multiplication or by divisions.
The significand, the power of ten and each result are rounded on their own, so the double may
lie a little off the nearest one.
-/

namespace DeviceLink.Double

/-- The greatest power of ten that is a finite double. -/
def maxTen : Nat := 308

/-- The double nearest to a power of ten, or nothing above the greatest. -/
def ten? (n : Nat) : Option Double := ofDecimal false 1 n

/-- A decimal with a significand of 64 bits, or nothing if it is too great. Below the range of
one division by a power of ten there are two, and what is less than that comes to zero. -/
def ofScaled (negative : Bool) (significand : Nat) (power : Int) : Option Double := do
  let d ← nearest negative significand 1
  if significand = 0 then pure d
  else if 0 ≤ power then d.mul? (← ten? power.toNat)
  else
    let down := (-power).toNat
    if down ≤ maxTen then d.div? (← ten? down)
    else if down ≤ 2 * maxTen then (← d.div? (← ten? maxTen)).div? (← ten? (down - maxTen))
    else pure (zero negative)

end DeviceLink.Double
