import Courier.Binary64.Shortest
import Courier.Json.Fault

/-!
# Numbers in JSON

A number without fraction and exponent is an integer if sixty-four bits hold it: from zero up
unsigned, below zero signed. Every other number is a double, also minus zero.

A double is read in two steps. First come digits, as many as a 64-bit word can collect, and a
power of ten that accounts for the digits left out and for those behind the point. Then the
collected word is rounded to a double, and multiplied or divided by the rounded power of ten. So
the result can differ from the nearest double by the rounding of each step. A result beyond the
doubles is refused, one too close to zero is zero.

A double is written with the fewest digits that read back: positional from 1e-5 up to below 1e16,
otherwise with an exponent that carries its sign.
-/

namespace Courier.Json

/-- The value of a number. -/
inductive Number where
  | integer (n : Int)
  | float (x : Binary64)
deriving DecidableEq, Repr

/-- The greatest unsigned word. -/
def greatestWord : Nat := 18446744073709551615

/-- A digit. -/
def isDigit (b : UInt8) : Bool := 48 ≤ b && b ≤ 57

/-- The value of a digit. -/
def digitValue (b : UInt8) : Nat := b.toNat - 48

/-- Whether the first byte of some bytes is a digit. -/
def startsWithDigit (s : Bytes) : Bool := s.head?.any isDigit

/-- Whether the first byte of some bytes begins an exponent. -/
def startsExponent (s : Bytes) : Bool := s.head?.any fun b => b = 101 || b = 69

/--
Collect digits in a word while they fit: the word, the number of digits added to it, and the
bytes that follow.
-/
def collectDigits (word : Nat) : Bytes → Nat × Nat × Bytes
  | [] => (word, 0, [])
  | b :: rest =>
    let more := word * 10 + digitValue b
    if isDigit b && more ≤ greatestWord then
      let (last, count, after) := collectDigits more rest
      (last, count + 1, after)
    else (word, 0, b :: rest)

/-- Drop digits: how many there were, and the bytes that follow. -/
def dropDigits (s : Bytes) : Nat × Bytes := ((s.takeWhile isDigit).length, s.dropWhile isDigit)

/-- The double of a word that is divided by a power of ten, in steps that doubles can express. -/
def divideByPowerOfTen (magnitude power : Nat) : Nat :=
  if power ≤ 308 then Binary64.div magnitude (Binary64.powerOfTen power)
  else if magnitude = 0 then 0
  else divideByPowerOfTen (Binary64.div magnitude (Binary64.powerOfTen 308)) (power - 308)
termination_by power

/-- The double of a word times a power of ten, if it is finite. -/
def scaleWord? (word : Nat) (exponent : Int) : Option Nat :=
  let magnitude := Binary64.ofNat word
  match exponent with
  | .ofNat e =>
    if e ≤ 308 then
      let product := Binary64.mul magnitude (Binary64.powerOfTen e)
      if product < Binary64.infinityWord then some product else none
    else if magnitude = 0 then some 0
    else none
  | .negSucc e => some (divideByPowerOfTen magnitude (e + 1))

/-- The number of a collected word and a power of ten, which was read up to some bytes. -/
def finishFloat (negative : Bool) (word : Nat) (exponent : Int) (rest : Bytes) : Read Number :=
  match scaleWord? word exponent with
  | some magnitude => .ok (.float ⟨negative, magnitude⟩, rest)
  | none => stop .numberOutOfRange rest

/-- The greatest exponent that is told apart from greater ones. -/
def greatestExponent : Nat := 2147483647

/-- Collect the digits of an exponent while they fit: the exponent, and the bytes that follow. -/
def collectExponent (exponent : Nat) : Bytes → Nat × Bytes
  | [] => (exponent, [])
  | b :: rest =>
    let more := exponent * 10 + digitValue b
    if isDigit b && more ≤ greatestExponent then collectExponent more rest
    else (exponent, b :: rest)

/-- Read an exponent whose mark has been read. -/
def readExponent (negative : Bool) (word : Nat) (exponent : Int) (s : Bytes) : Read Number :=
  let (down, s) :=
    match s with
    | 43 :: rest => (false, rest)
    | 45 :: rest => (true, rest)
    | _ => (false, s)
  match s with
  | [] => stop .endOfValue []
  | b :: rest =>
    if !isDigit b then stop .invalidNumber rest
    else
      let (power, rest) := collectExponent (digitValue b) rest
      if startsWithDigit rest then
        if word ≠ 0 && !down then stop .numberOutOfRange rest.tail
        else .ok (.float ⟨negative, 0⟩, (dropDigits rest).2)
      else finishFloat negative word (if down then exponent - power else exponent + power) rest

/-- Read a fraction whose point has been read. -/
def readFraction (negative : Bool) (word : Nat) (exponent : Int) (s : Bytes) : Read Number :=
  let (word, count, rest) := collectDigits word s
  let exponent := exponent - count
  if startsWithDigit rest then
    let rest := (dropDigits rest).2
    if startsExponent rest then readExponent negative word exponent rest.tail
    else finishFloat negative word exponent rest
  else if count = 0 then
    if rest.isEmpty then stop .endOfValue [] else stopAt .invalidNumber rest
  else if startsExponent rest then readExponent negative word exponent rest.tail
  else finishFloat negative word exponent rest

/-- The integer of a word, or a double if it does not fit. -/
def Number.ofWord (negative : Bool) (word : Nat) : Number :=
  if !negative then .integer word
  else if word = 0 || Nat.pow 2 63 < word then .float ⟨true, Binary64.ofNat word⟩
  else .integer (-word)

/-- Read what follows the digits in front of the point. -/
def readAfterWhole (negative : Bool) (word : Nat) (s : Bytes) : Read Number :=
  match s with
  | 46 :: rest => readFraction negative word 0 rest
  | _ =>
    if startsExponent s then readExponent negative word 0 s.tail
    else .ok (Number.ofWord negative word, s)

/-- Read a number whose sign, if it has one, has been read. -/
def readUnsigned (negative : Bool) (s : Bytes) : Read Number :=
  match s with
  | [] => stop .endOfValue []
  | b :: rest =>
    if b = 48 then
      if startsWithDigit rest then stopAt .invalidNumber rest
      else readAfterWhole negative 0 rest
    else if isDigit b then
      let (word, _, rest) := collectDigits 0 (b :: rest)
      if startsWithDigit rest then
        let (skipped, rest) := dropDigits rest
        match rest with
        | 46 :: rest => readFraction negative word skipped rest
        | _ =>
          if startsExponent rest then readExponent negative word skipped rest.tail
          else finishFloat negative word skipped rest
      else readAfterWhole negative word rest
    else stop .invalidNumber rest

/-- Read a number. -/
def readNumber (s : Bytes) : Read Number :=
  match s with
  | 45 :: rest => readUnsigned true rest
  | _ => readUnsigned false s

/-- Whether a byte begins a number. -/
def startsNumber (b : UInt8) : Bool := b = 45 || isDigit b

/-- Pass over an exponent whose mark has been read. -/
def skipExponent (s : Bytes) : Except Stop Bytes :=
  let s :=
    match s with
    | 43 :: rest => rest
    | 45 :: rest => rest
    | _ => s
  if startsWithDigit s then .ok (dropDigits s).2 else stop .invalidNumber s.tail

/-- Pass over the rest of a number behind its whole digits. -/
def skipAfterWhole (s : Bytes) : Except Stop Bytes :=
  match s with
  | 46 :: rest =>
    let (count, after) := dropDigits rest
    if count = 0 then stopAt .invalidNumber after
    else if startsExponent after then skipExponent after.tail
    else .ok after
  | _ => if startsExponent s then skipExponent s.tail else .ok s

/-- Pass over a number whose sign, if it has one, has been read. -/
def skipUnsigned (s : Bytes) : Except Stop Bytes :=
  match s with
  | [] => stop .invalidNumber []
  | b :: rest =>
    if b = 48 then
      if startsWithDigit rest then stopAt .invalidNumber rest else skipAfterWhole rest
    else if isDigit b then skipAfterWhole (dropDigits rest).2
    else stop .invalidNumber rest

/-- Pass over a number. -/
def skipNumber (s : Bytes) : Except Stop Bytes :=
  match s with
  | 45 :: rest => skipUnsigned rest
  | _ => skipUnsigned s

/-- The greatest power of ten that is written in positional notation. -/
def greatestPositional : Int := 15

/-- The least power of ten that is written in positional notation. -/
def leastPositional : Int := -5

/-- A finite double in JSON. -/
def floatText (x : Binary64) : String :=
  let d := Binary64.shortest x.magnitude
  let positional := leastPositional ≤ d.leading ∧ d.leading ≤ greatestPositional
  String.ofList (x.signChars ++ if positional then d.positional else d.scientific)

/-- A number in JSON. -/
def Number.text : Number → String
  | .integer n => toString n
  | .float x => floatText x

/-- How a message names a number that was found. -/
def Number.found : Number → Found
  | .integer n => .integer n
  | .float x => .float (floatText x)

end Courier.Json
