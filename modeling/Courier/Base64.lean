import Courier.Text.Utf8

/-!
# Base64

The standard alphabet, in groups of four symbols, with padding. Decoding is strict: padding is
required, white space is refused, and the bits of the last symbol that stand for no byte must be
zero. So each byte string has exactly one text. A fault names the place of the first symbol that
cannot be accepted.
-/

namespace Courier.Base64

/-- Why a text is not base64. -/
inductive Fault where
  /-- A byte outside the alphabet, or padding where a symbol has to stand. -/
  | symbol (offset : Nat) (byte : UInt8)
  /-- The last group has too few symbols to make a byte. -/
  | length (symbols : Nat)
  /-- The last symbol carries bits that belong to no byte. -/
  | lastSymbol (offset : Nat) (byte : UInt8)
  /-- The last group is not filled up to four with padding. -/
  | padding
deriving DecidableEq, Repr

/-- The wording of a fault. -/
def Fault.message : Fault → String
  | .symbol offset byte => s!"Invalid symbol {byte.toNat}, offset {offset}."
  | .length symbols => s!"Invalid input length: {symbols}"
  | .lastSymbol offset byte => s!"Invalid last symbol {byte.toNat}, offset {offset}."
  | .padding => "Invalid padding"

/-- The padding character. -/
def pad : UInt8 := 61

/-- The symbol of six bits. -/
def symbolOf (n : Nat) : UInt8 :=
  if n < 26 then (65 + n).toUInt8
  else if n < 52 then (71 + n).toUInt8
  else if n < 62 then (n - 4).toUInt8
  else if n = 62 then 43
  else 47

/-- The six bits of a symbol, if the byte is in the alphabet. -/
def valueOf? (b : UInt8) : Option Nat :=
  if 65 ≤ b ∧ b ≤ 90 then some (b.toNat - 65)
  else if 97 ≤ b ∧ b ≤ 122 then some (b.toNat - 71)
  else if 48 ≤ b ∧ b ≤ 57 then some (b.toNat + 4)
  else if b = 43 then some 62
  else if b = 47 then some 63
  else none

/-- Reading a symbol undoes writing it. -/
theorem valueOf?_symbolOf : ∀ n < 64, valueOf? (symbolOf n) = some n := by decide

/-- Padding is no symbol. -/
theorem valueOf?_pad : valueOf? pad = none := by decide

/-- The symbols of a byte string, three bytes to a group. -/
def encodeBytes : Bytes → Bytes
  | a :: b :: c :: rest =>
    symbolOf (a.toNat / 4) :: symbolOf (a.toNat % 4 * 16 + b.toNat / 16)
      :: symbolOf (b.toNat % 16 * 4 + c.toNat / 64) :: symbolOf (c.toNat % 64)
      :: encodeBytes rest
  | [a, b] =>
    [symbolOf (a.toNat / 4), symbolOf (a.toNat % 4 * 16 + b.toNat / 16),
      symbolOf (b.toNat % 16 * 4), pad]
  | [a] => [symbolOf (a.toNat / 4), symbolOf (a.toNat % 4 * 16), pad, pad]
  | [] => []

/-- The text of a byte string. -/
def encode (bytes : Bytes) : String :=
  String.ofList ((encodeBytes bytes).map fun b => Char.ofNat b.toNat)

/-- The six bits of the symbol at an offset. -/
def symbolAt (offset : Nat) (b : UInt8) : Except Fault Nat :=
  match valueOf? b with
  | some n => .ok n
  | none => .error (.symbol offset b)

/-- The three bytes of four symbols. -/
def bytesOf (p q r s : Nat) : Bytes :=
  [(p * 4 + q / 16).toUInt8, (q % 16 * 16 + r / 4).toUInt8, (r % 4 * 64 + s).toUInt8]

/-- The symbols in front of the padding of the last group, whose first two bytes cannot be padding. -/
def lastSymbols (offset : Nat) : Nat → Bytes → Except Fault (List Nat × Nat)
  | _, [] => .ok ([], 0)
  | index, b :: rest =>
    if b = pad then
      if index < 2 then .error (.symbol (offset + index) b)
      else if rest.all (· == pad) then .ok ([], rest.length + 1)
      else .error (.symbol (offset + index) b)
    else do
      let n ← symbolAt (offset + index) b
      let (values, pads) ← lastSymbols offset (index + 1) rest
      return (n :: values, pads)

/-- The bytes of the last group, of which up to four symbols are left. -/
def decodeLast (offset : Nat) (group : Bytes) : Except Fault Bytes := do
  let (values, pads) ← lastSymbols offset 0 group
  match values with
  | [] => if group.isEmpty then .ok [] else .error (.length offset)
  | [_] => .error (.length (offset + 1))
  | _ =>
    if (values.length + pads) % 4 ≠ 0 then .error .padding
    else
      match values with
      | [p, q, r, s] => .ok (bytesOf p q r s)
      | [p, q, r] =>
        if r % 4 ≠ 0 then .error (.lastSymbol (offset + 2) (symbolOf r))
        else .ok ((bytesOf p q r 0).take 2)
      | [p, q] =>
        if q % 16 ≠ 0 then .error (.lastSymbol (offset + 1) (symbolOf q))
        else .ok ((bytesOf p q 0 0).take 1)
      | _ => .error (.length offset)

/-- Decode groups of four; the last one, even if it is full, may hold padding. -/
def decodeFrom (offset : Nat) : Bytes → Except Fault Bytes
  | a :: b :: c :: d :: e :: rest => do
    let p ← symbolAt offset a
    let q ← symbolAt (offset + 1) b
    let r ← symbolAt (offset + 2) c
    let s ← symbolAt (offset + 3) d
    let more ← decodeFrom (offset + 4) (e :: rest)
    return bytesOf p q r s ++ more
  | group => decodeLast offset group

/--
Decode the bytes of a text. A single byte after whole groups can never be right, so one that is
outside the alphabet is reported before anything in front of it.
-/
def decodeBytes (symbols : Bytes) : Except Fault Bytes :=
  match symbols.getLast? with
  | some last =>
    if symbols.length % 4 = 1 ∧ last ≠ pad ∧ valueOf? last = none then
      .error (.symbol (symbols.length - 1) last)
    else decodeFrom 0 symbols
  | none => .ok []

/-- The byte string of a text. -/
def decode (text : String) : Except Fault Bytes := decodeBytes (Text.Utf8.encode text)

end Courier.Base64
