/-!
# Decimals

A decimal is a whole number times a power of ten. It can be written in two ways. Positional
notation puts the point among the digits and fills up with zeros; there is always a digit on both
sides of the point. Scientific notation puts it after the first digit, if another one follows,
and states the power of ten.
-/

namespace Courier

/-- A whole number times a power of ten. -/
structure Decimal where
  digits : Nat
  exponent : Int
deriving DecidableEq, Repr

namespace Decimal

/-- Move zeros at the end of the digits into the exponent. -/
def trim (d : Decimal) : Decimal :=
  if h : d.digits ≠ 0 ∧ d.digits % 10 = 0 then
    have : d.digits / 10 < d.digits := by omega
    trim ⟨d.digits / 10, d.exponent + 1⟩
  else d
termination_by d.digits

/-- The characters of the digits. -/
def digitChars (d : Decimal) : List Char := Nat.toDigits 10 d.digits

/-- The power of ten of the first digit. -/
def leading (d : Decimal) : Int := d.exponent + d.digitChars.length - 1

/-- The digits with a point, and zeros where the point lies outside them. -/
def positional (d : Decimal) : List Char :=
  let ds := d.digitChars
  match d.exponent with
  | .ofNat e => ds ++ List.replicate e '0' ++ ['.', '0']
  | .negSucc e =>
    let places := e + 1
    if places < ds.length then ds.take (ds.length - places) ++ '.' :: ds.drop (ds.length - places)
    else '0' :: '.' :: List.replicate (places - ds.length) '0' ++ ds

/-- One digit, the others after a point, and the signed power of ten. -/
def scientific (d : Decimal) : List Char :=
  let power := d.leading
  let mark := if power < 0 then ['e', '-'] else ['e', '+']
  let tail := mark ++ Nat.toDigits 10 power.natAbs
  match d.digitChars with
  | [] => tail
  | [first] => first :: tail
  | first :: rest => first :: '.' :: rest ++ tail

end Decimal

end Courier
