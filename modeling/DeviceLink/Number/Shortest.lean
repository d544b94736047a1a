import DeviceLink.Number.Double
/-!
# The fewest digits that read back

`shortest d` is the decimal with the fewest digits that rounds to the double `d`, the
nearest of those with that many digits. `Layout` says how such a decimal is written.
-/

namespace DeviceLink

/-- A decimal `0.digits × 10^(point)`: its digits without leading or trailing zeros, and the
exponent of the leading one. -/
structure Decimal where
  digits : List Nat
  leading : Int
  deriving DecidableEq, Repr

namespace Double

/-- The reals that round to a finite double, in units of `2^power`: from `low` to `high`,
both ends included if `closed`. The value itself is `mid`. -/
structure Interval where
  low : Nat
  mid : Nat
  high : Nat
  power : Int
  closed : Bool

/-- The reals that round to `d`. Below a power of two the gap is half as wide. -/
def interval (d : Double) : Interval :=
  let m := d.significand
  let narrow := m = Nat.pow 2 52 ∧ 1 < d.exponentField
  { low := if narrow then 4 * m - 1 else 4 * m - 2
    mid := 4 * m
    high := 4 * m + 2
    power := d.exponent - 2
    closed := m % 2 = 0 }

/-- Both sides of `x · 2^power` against `y · 10^ten`, over the common denominator. -/
def onGrid (power ten : Int) : Nat × Nat :=
  (Nat.pow 2 power.toNat * Nat.pow 10 (-ten).toNat,
    Nat.pow 10 ten.toNat * Nat.pow 2 (-power).toNat)

/-- Whether the grid point `n · 10^ten` lies in the interval. -/
def Interval.holds (i : Interval) (ten : Int) (n : Nat) : Bool :=
  let (unit, grid) := onGrid i.power ten
  let point := n * grid
  if i.closed then i.low * unit ≤ point && point ≤ i.high * unit
  else i.low * unit < point && point < i.high * unit

/-- The neighbour of the value on the grid of multiples of `10^ten` that lies in the
interval; of two the nearer one, and the even one of two as near. -/
def Interval.nearest? (i : Interval) (ten : Int) : Option Nat :=
  let (unit, grid) := onGrid i.power ten
  let below := i.mid * unit / grid
  let rest := i.mid * unit % grid
  match i.holds ten below, i.holds ten (below + 1) with
  | false, false => none
  | true, false => some below
  | false, true => some (below + 1)
  | true, true =>
    if 2 * rest < grid then some below
    else if grid < 2 * rest then some (below + 1)
    else some (below + below % 2)

/-- The exponent of the leading digit of `mid · 2^power`, from its binary exponent: the
guess is that exponent or one less. -/
def Interval.leading (i : Interval) : Int :=
  let guess := (((Nat.log2 i.mid : Nat) + i.power) * 30103).fdiv 100000
  let (unit, grid) := onGrid i.power (guess + 1)
  if grid ≤ i.mid * unit then guess + 1 else guess

/-- The digits of `n`, trailing zeros dropped. -/
def trimmedDigits (n : Nat) : List Nat :=
  ((Nat.toDigits 10 n).map fun c => c.toNat - '0'.toNat).reverse.dropWhile (· = 0) |>.reverse

/-- The first grid, from one digit to seventeen, that has a point in the interval. -/
def Interval.search (i : Interval) (leading : Int) (digits : Nat) : Nat → Option (Nat × Int)
  | 0 => none
  | fuel + 1 =>
    let ten := leading - digits + 1
    match i.nearest? ten with
    | some n => some (n, ten)
    | none => i.search leading (digits + 1) fuel

/-- The shortest decimal that reads back as the magnitude of a finite double. -/
def shortest (d : Double) : Decimal :=
  if d.significand = 0 then ⟨[0], 0⟩
  else
    let i := d.interval
    match i.search i.leading 1 17 with
    | some (n, ten) => ⟨trimmedDigits n, ten + (Nat.toDigits 10 n).length - 1⟩
    | none => ⟨[0], 0⟩

end Double

/-- How a decimal is written: the exponents of the leading digit that are written with the
point in place. The others get a signed exponent. -/
structure Layout where
  positional : Int → Bool

namespace Layout

/-- The digit characters. -/
def digits (ds : List Nat) : List Char := ds.map Nat.digitChar

/-- The point in its place, and a digit on each side of it. -/
def fixed (d : Decimal) : List Char :=
  if d.leading < 0 then
    ['0', '.'] ++ List.replicate (-d.leading - 1).toNat '0' ++ digits d.digits
  else
    let whole := d.leading.toNat + 1
    let front := digits (d.digits.take whole) ++ List.replicate (whole - d.digits.length) '0'
    let back := digits (d.digits.drop whole)
    front ++ ['.'] ++ if back.isEmpty then ['0'] else back

/-- One digit before the point, none after it if there are no more, and a signed exponent. -/
def scientific (d : Decimal) : List Char :=
  let back := digits (d.digits.drop 1)
  digits (d.digits.take 1) ++ (if back.isEmpty then [] else '.' :: back) ++
    ['e', if d.leading < 0 then '-' else '+'] ++ Nat.toDigits 10 d.leading.natAbs

/-- A finite decimal as the layout has it. -/
def write (l : Layout) (d : Decimal) : List Char :=
  if l.positional d.leading then fixed d else scientific d

/-- A double as the layout has it. -/
def writeDouble (l : Layout) (d : Double) : List Char :=
  if d.isNaN then "NaN".toList
  else
    let sign := if d.isNegative then ['-'] else []
    sign ++ if d.isFinite then l.write d.shortest else "inf".toList

end Layout

end DeviceLink
