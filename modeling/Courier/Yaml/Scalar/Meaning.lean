import Courier.Binary64.Shortest
import Courier.Mismatch
import Courier.Yaml.Token

/-!
# What scalars mean

A plain scalar can stand for nothing, for a boolean or for a number, by its looks; else it is
text, as every scalar in quotes or in a block is. A tag of the core kinds demands a kind, and is
refused where the text does not have it.

Integers are decimal, or in base sixteen, eight or two behind `0x`, `0o` or `0b`. Decimal digits
behind a zero are no number. Floating point numbers are finite decimals, or one of the words for
infinity and for no number.
-/

namespace Courier.Yaml

/-- What a scalar means. -/
inductive Meaning where
  | unit
  | boolean (b : Bool)
  /-- An integer that sixty-four bits hold, signed below zero and unsigned from zero up. -/
  | integer (n : Int)
  /-- An integer that needs as many as one hundred and twenty-eight bits. -/
  | wideInteger (n : Int)
  | float (x : Binary64)
  | text (t : String)
deriving DecidableEq, Repr

/-! ## Integers -/

/-- The value of a digit in some base. -/
def digitValue? (base : Nat) (c : Char) : Option Nat :=
  let n :=
    if '0' ≤ c ∧ c ≤ '9' then c.toNat - 48
    else if 'a' ≤ c ∧ c ≤ 'z' then c.toNat - 87
    else if 'A' ≤ c ∧ c ≤ 'Z' then c.toNat - 55
    else base
  if n < base then some n else none

/-- The value of digits in some base behind a number. -/
def digitsFrom? (base : Nat) (number : Nat) : List Char → Option Nat
  | [] => some number
  | c :: rest =>
    match digitValue? base c with
    | none => none
    | some digit => digitsFrom? base (number * base + digit) rest

/-- The value of digits in some base, of which there is at least one. -/
def digits? (base : Nat) (cs : List Char) : Option Nat :=
  if cs.isEmpty then none else digitsFrom? base 0 cs

/-- Whether decimal digits, with or without a sign, stand behind a zero. -/
def hasLeadingZero (cs : List Char) : Bool :=
  let unsigned :=
    match cs with
    | '+' :: rest => rest
    | '-' :: rest => rest
    | _ => cs
  match unsigned with
  | '0' :: d :: rest => (d :: rest).all Char.isDigit
  | _ => false

/-- The value of an integer without a sign. -/
def magnitude? (cs : List Char) : Option Nat :=
  match cs with
  | '0' :: 'x' :: rest => digits? 16 rest
  | '0' :: 'o' :: rest => digits? 8 rest
  | '0' :: 'b' :: rest => digits? 2 rest
  | _ => if hasLeadingZero cs then none else digits? 10 cs

/-- The value of an integer that is not below zero. -/
def unsigned? (cs : List Char) : Option Nat :=
  match cs with
  | '+' :: rest => magnitude? rest
  | _ => magnitude? cs

/-- The value of an integer. -/
def integer? (cs : List Char) : Option Int :=
  match cs with
  | '-' :: rest => (magnitude? rest).map fun n => -(n : Int)
  | _ => (unsigned? cs).map fun n => (n : Int)

/-- What an integer means, if so many bits suffice for it. -/
def Meaning.ofInteger? (n : Int) : Option Meaning :=
  if -Nat.pow 2 63 ≤ n ∧ n < Nat.pow 2 64 then some (.integer n)
  else if -Nat.pow 2 127 ≤ n ∧ n < Nat.pow 2 128 then some (.wideInteger n)
  else none

/-! ## Floating point numbers -/

/-- A decimal in characters: its digits, and how many of them stand behind the point. -/
structure Digits where
  all : List Char
  behindPoint : Nat

/-- Read the digits of a decimal and its point. -/
def readDigits (cs : List Char) : Digits × List Char :=
  let whole := cs.takeWhile Char.isDigit
  match cs.dropWhile Char.isDigit with
  | '.' :: rest =>
    let fraction := rest.takeWhile Char.isDigit
    (⟨whole ++ fraction, fraction.length⟩, rest.dropWhile Char.isDigit)
  | rest => (⟨whole, 0⟩, rest)

/--
The magnitude of the exponent that digits state. Once it is 65536 or more, further digits do not
count.
-/
def exponentMagnitude? (cs : List Char) : Option Nat :=
  if cs.isEmpty || !cs.all Char.isDigit then none
  else some (cs.foldl (fun n c => if n < 65536 then n * 10 + (c.toNat - 48) else n) 0)

/-- The exponent that all of some characters state; there is none in no characters. -/
def exponent? (cs : List Char) : Option Int :=
  let signed (cs : List Char) : Option Int :=
    match cs with
    | '-' :: rest => (exponentMagnitude? rest).map fun n => -(n : Int)
    | '+' :: rest => (exponentMagnitude? rest).map fun n => (n : Int)
    | _ => (exponentMagnitude? cs).map fun n => (n : Int)
  match cs with
  | [] => some 0
  | c :: rest => if c = 'e' ∨ c = 'E' then signed rest else none

/--
The magnitude nearest to a decimal. `digitCount` counts the digits of the number from the first one
that is not zero; by it powers of ten far outside the range are not taken.
-/
def decimalMagnitude (number : Nat) (digitCount : Nat) (exponent : Int) : Nat :=
  if number = 0 then 0
  else if 400 < exponent + digitCount then Binary64.infinityWord
  else if exponent + digitCount < -400 then 0
  else Binary64.ofDecimal number exponent

/-- The finite number that some characters without a sign stand for. -/
def decimal? (negative : Bool) (cs : List Char) : Option Binary64 :=
  let (digits, rest) := readDigits cs
  match digits? 10 digits.all, exponent? rest with
  | some number, some exponent =>
    let digitCount := (digits.all.dropWhile (· = '0')).length
    let x : Binary64 :=
      ⟨negative, decimalMagnitude number digitCount (exponent - digits.behindPoint)⟩
    if x.isFinite then some x else none
  | _, _ => none

/-- Infinity. -/
def infinity (negative : Bool) : Binary64 := ⟨negative, Binary64.infinityWord⟩

/-- What is no number. -/
def notANumber : Binary64 := ⟨false, Binary64.infinityWord + 1⟩

/-- The floating point number that a text stands for. -/
def float? (text : String) : Option Binary64 :=
  if [".inf", ".Inf", ".INF", "+.inf", "+.Inf", "+.INF"].contains text then some (infinity false)
  else if ["-.inf", "-.Inf", "-.INF"].contains text then some (infinity true)
  else if [".nan", ".NaN", ".NAN"].contains text then some notANumber
  else
    match text.toList with
    | '-' :: rest => decimal? true rest
    | '+' :: rest => decimal? false rest
    | cs => decimal? false cs

/-- How a message names a floating point number. -/
def floatText (x : Binary64) : String :=
  if x.isFinite then x.positional
  else if x.magnitude = Binary64.infinityWord then if x.negative then "-inf" else "inf"
  else "NaN"

/-! ## Scalars -/

/-- The boolean that a text stands for. -/
def boolean? (text : String) : Option Bool :=
  if ["true", "True", "TRUE"].contains text then some true
  else if ["false", "False", "FALSE"].contains text then some false
  else none

/-- Whether a text stands for nothing. -/
def isNull (text : String) : Bool := ["~", "null", "Null", "NULL"].contains text

/-- What an integer means that a text stands for. -/
def integerMeaning? (text : String) : Option Meaning :=
  (integer? text.toList).bind Meaning.ofInteger?

/-- What a plain scalar means by its looks. -/
def Meaning.ofPlain (text : String) : Meaning :=
  if text.isEmpty || isNull text then .unit
  else
    match boolean? text, integerMeaning? text with
    | some b, _ => .boolean b
    | none, some n => n
    | none, none =>
      if hasLeadingZero text.toList then .text text
      else
        match float? text with
        | some x => .float x
        | none => .text text

/-- What a scalar means, or why its tag is refused. -/
def Meaning.ofScalar (tag : Option Tag) (style : Style) (text : String) :
    Except Mismatch Meaning :=
  let demand (meaning : Option Meaning) (expected : String) : Except Mismatch Meaning :=
    match meaning with
    | some m => .ok m
    | none => .error (.invalidValue (.text text) expected)
  match tag with
  | none => .ok (if style = .plain then ofPlain text else .text text)
  | some tag =>
    if tag = Tag.core "bool" then demand ((boolean? text).map .boolean) "a boolean"
    else if tag = Tag.core "int" then demand (integerMeaning? text) "an integer"
    else if tag = Tag.core "float" then demand ((float? text).map .float) "a float"
    else if tag = Tag.core "null" then demand (if isNull text then some .unit else none) "null"
    else .ok (if tag.isLocal && style = .plain then ofPlain text else .text text)

/-- How a message names a meaning. -/
def Meaning.found : Meaning → Found
  | .unit => .unit
  | .boolean b => .boolean b
  | .integer n => .integer n
  | .wideInteger n => .wideInteger n
  | .float x => .float (floatText x)
  | .text t => .text t

end Courier.Yaml
