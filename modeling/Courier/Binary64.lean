/-!
# Double precision numbers

A number is its sign and the word of its magnitude: eleven bits of exponent above fifty-two bits
of fraction. Words are ordered like the magnitudes they stand for, which makes rounding a matter
of integers: a positive ratio is scaled until its whole part has fifty-three bits, the nearest
whole number is taken, and on a tie the even one.

The arithmetic here is what reading numbers needs: rounding a ratio, a product and a quotient.
-/

namespace Courier

/-- A double precision number. -/
structure Binary64 where
  negative : Bool
  /-- The exponent and fraction fields as one number. -/
  magnitude : Nat
deriving DecidableEq, Repr

namespace Binary64

/-- The number of fraction values at each exponent. -/
def fractionCount : Nat := Nat.pow 2 52

/-- The word of infinity; greater words are not numbers. -/
def infinityWord : Nat := 2047 * fractionCount

/-- Whether the word stands for a finite number. -/
def isFinite (x : Binary64) : Bool := x.magnitude < infinityWord

/-- The whole number that is scaled by a power of two to give a magnitude. -/
def significand (magnitude : Nat) : Nat :=
  if magnitude < fractionCount then magnitude
  else fractionCount + magnitude % fractionCount

/-- By how much more than the least scale the significand is scaled. -/
def scaleAbove (magnitude : Nat) : Nat := magnitude / fractionCount - 1

/-- The power of two, below one, of the least scale. -/
def leastScale : Nat := 1074

/-- The exact value of a finite magnitude as a ratio. -/
def ratio (magnitude : Nat) : Nat × Nat :=
  (significand magnitude * Nat.pow 2 (scaleAbove magnitude), Nat.pow 2 leastScale)

/-- The whole number nearest to a ratio, the even one on a tie. -/
def nearest (numerator denominator : Nat) : Nat :=
  let whole := numerator / denominator
  let twice := 2 * (numerator % denominator)
  if twice < denominator then whole
  else if denominator < twice then whole + 1
  else whole + whole % 2

/-- The number of times a ratio can be halved before it falls below a bound. -/
def halvings (numerator denominator bound : Nat) : Nat :=
  let guess := Nat.log2 numerator - Nat.log2 (denominator * bound)
  if denominator * bound * Nat.pow 2 guess ≤ numerator then guess else guess - 1

/-- The magnitude nearest to a ratio, the one with an even significand on a tie. -/
def ofRatio (numerator denominator : Nat) : Nat :=
  let scaled := numerator * Nat.pow 2 leastScale
  let shift := halvings scaled denominator fractionCount
  min infinityWord (shift * fractionCount + nearest scaled (denominator * Nat.pow 2 shift))

/-- The magnitude nearest to a whole number. -/
def ofNat (n : Nat) : Nat := ofRatio n 1

/-- The magnitude nearest to a power of ten. -/
def powerOfTen (exponent : Nat) : Nat := ofNat (Nat.pow 10 exponent)

/-- The rounded product of two finite magnitudes. -/
def mul (x y : Nat) : Nat :=
  ofRatio ((ratio x).1 * (ratio y).1) ((ratio x).2 * (ratio y).2)

/-- The rounded quotient of two finite magnitudes, the second one not zero. -/
def div (x y : Nat) : Nat :=
  ofRatio ((ratio x).1 * (ratio y).2) ((ratio x).2 * (ratio y).1)

/-- The magnitude nearest to a whole number times a power of ten. -/
def ofDecimal (digits : Nat) (exponent : Int) : Nat :=
  match exponent with
  | .ofNat e => ofRatio (digits * Nat.pow 10 e) 1
  | .negSucc e => ofRatio digits (Nat.pow 10 (e + 1))

end Binary64

end Courier
