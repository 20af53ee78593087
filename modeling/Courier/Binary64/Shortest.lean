import Courier.Binary64
import Courier.Decimal

/-!
# The fewest digits that read back

Every double is nearest to all the reals of some interval around it. Its shortest decimal is the
one with the fewest digits in that interval; of several, the one nearest to the double. On the
decimal grid of a given number of digits only the two neighbours of the double need be looked
at: a grid point further away is in the interval only if the nearer one on its side is.
-/

namespace Courier.Binary64

/-- Four times the scaled significand, and the ends of the interval in the same unit. -/
structure Interval where
  low : Nat
  value : Nat
  high : Nat
  /-- What one of the unit is a fraction of. -/
  denominator : Nat
  /-- Whether the ends belong to the interval. -/
  closed : Bool

/-- The interval of the reals that are nearest to a magnitude. -/
def Interval.around (magnitude : Nat) : Interval :=
  let m := significand magnitude
  let unit := Nat.pow 2 (scaleAbove magnitude)
  let narrowBelow := m = fractionCount ∧ 1 < magnitude / fractionCount
  ⟨(4 * m - if narrowBelow then 1 else 2) * unit,
    4 * m * unit, (4 * m + 2) * unit, 4 * Nat.pow 2 leastScale, m % 2 = 0⟩

/-- Whether a ratio, in the unit of the interval and over `scale`, lies in it. -/
def Interval.contains (i : Interval) (numerator scale : Nat) : Bool :=
  if i.closed then i.low * scale ≤ numerator && numerator ≤ i.high * scale
  else i.low * scale < numerator && numerator < i.high * scale

/-- The number of digits in front of the point, less one, of a ratio of at least one. -/
def wholeExponent (numerator denominator : Nat) : Nat :=
  (Nat.toDigits 10 (numerator / denominator)).length - 1

/-- The power of ten of the first digit of a ratio that is not zero. -/
def leadingExponent (numerator denominator : Nat) : Int :=
  if denominator ≤ numerator then wholeExponent numerator denominator
  else
    let up := wholeExponent denominator numerator
    if denominator ≤ numerator * Nat.pow 10 up then -(up : Int) else -(up + 1 : Int)

/-- The better of the two neighbours on the grid of some number of digits, if one is near enough. -/
def gridDecimal? (i : Interval) (leading : Int) (count : Nat) : Option Decimal :=
  let exponent := leading - (count : Int) + 1
  -- value over grid unit is `value * up / (denominator * down)`
  let up := Nat.pow 10 (-exponent).toNat
  let down := Nat.pow 10 exponent.toNat
  let lower := i.value * up / (i.denominator * down)
  let distanceBelow := i.value * up - lower * (i.denominator * down)
  let distanceAbove := (lower + 1) * (i.denominator * down) - i.value * up
  let below := i.contains (lower * i.denominator * down) up
  let above := i.contains ((lower + 1) * i.denominator * down) up
  if below && (!above || distanceBelow < distanceAbove
      || (distanceBelow == distanceAbove && lower % 2 == 0)) then
    some ⟨lower, exponent⟩
  else if above then some ⟨lower + 1, exponent⟩
  else none

/-- Seventeen digits always suffice. -/
def mostDigits : Nat := 17

/-- The first grid, from few digits to many, with a point in the interval. -/
def firstDecimal (i : Interval) (leading : Int) : Nat → Nat → Decimal
  | 0, count => (gridDecimal? i leading count).getD ⟨0, 0⟩
  | more + 1, count =>
    match gridDecimal? i leading count with
    | some d => d
    | none => firstDecimal i leading more (count + 1)

/-- The shortest decimal of a finite magnitude. -/
def shortest (magnitude : Nat) : Decimal :=
  if magnitude = 0 then ⟨0, 0⟩
  else
    let i := Interval.around magnitude
    (firstDecimal i (leadingExponent i.value i.denominator) (mostDigits - 1) 1).trim

/-- The sign in front of a number. -/
def signChars (x : Binary64) : List Char := if x.negative then ['-'] else []

/-- A finite number in positional notation, whatever its size. -/
def positional (x : Binary64) : String :=
  String.ofList (x.signChars ++ (shortest x.magnitude).positional)

end Courier.Binary64
