import Courier.Bytes
import Courier.Mismatch

/-!
# Why a JSON text cannot be read

Reading goes through a text from front to back and stops at the first problem. While it goes on,
a problem is kept together with the bytes that follow its place (`Stop`); at the end this becomes
a line and a column of the whole text (`Fault`).
-/

namespace Courier.Json

/-- Text that is not JSON. -/
inductive Malformed where
  | endOfList
  | endOfObject
  | endOfText
  | endOfValue
  | expectedColon
  | expectedListEnd
  | expectedObjectEnd
  | expectedWord
  | expectedValue
  | invalidEscape
  | invalidNumber
  | numberOutOfRange
  | invalidCodePoint
  | controlCharacter
  | keyNotText
  | loneSurrogate
  | trailingComma
  | trailingCharacters
  | endOfSurrogates
  | tooDeep
deriving DecidableEq, Repr

/-- The wording of what is malformed. -/
def Malformed.message : Malformed → String
  | .endOfList => "EOF while parsing a list"
  | .endOfObject => "EOF while parsing an object"
  | .endOfText => "EOF while parsing a string"
  | .endOfValue => "EOF while parsing a value"
  | .expectedColon => "expected `:`"
  | .expectedListEnd => "expected `,` or `]`"
  | .expectedObjectEnd => "expected `,` or `\x7d`"
  | .expectedWord => "expected ident"
  | .expectedValue => "expected value"
  | .invalidEscape => "invalid escape"
  | .invalidNumber => "invalid number"
  | .numberOutOfRange => "number out of range"
  | .invalidCodePoint => "invalid unicode code point"
  | .controlCharacter => "control character (\\u0000-\\u001F) found while parsing a string"
  | .keyNotText => "key must be a string"
  | .loneSurrogate => "lone leading surrogate in hex escape"
  | .trailingComma => "trailing comma"
  | .trailingCharacters => "trailing characters"
  | .endOfSurrogates => "unexpected end of hex escape"
  | .tooDeep => "recursion limit exceeded"

/-- Text that is not JSON, or JSON that is not what was expected. -/
inductive Problem where
  | malformed (what : Malformed)
  | unfit (what : Mismatch)
deriving DecidableEq, Repr

/-- The wording of a problem. -/
def Problem.message : Problem → String
  | .malformed what => what.message
  | .unfit what => what.message

/-- A problem, and the bytes that follow its place. -/
structure Stop where
  problem : Problem
  after : Bytes
deriving DecidableEq, Repr

/-- What reading some part of a text gives: its meaning, and the bytes behind it. -/
abbrev Read (α : Type) := Except Stop (α × Bytes)

/-- Stop in front of these bytes. -/
def stop {α : Type} (what : Malformed) (rest : Bytes) : Except Stop α :=
  .error ⟨.malformed what, rest⟩

/-- Stop at the first of these bytes, or at the end if there is none. -/
def stopAt {α : Type} (what : Malformed) (rest : Bytes) : Except Stop α :=
  .error ⟨.malformed what, rest.tail⟩

/-- Stop in front of these bytes because of what was read. -/
def refuse {α : Type} (what : Mismatch) (rest : Bytes) : Except Stop α :=
  .error ⟨.unfit what, rest⟩

/-- A problem and its place in the text: the line, and the bytes of this line up to the place. -/
structure Fault where
  problem : Problem
  line : Nat
  column : Nat
deriving DecidableEq, Repr

/-- The wording of a fault. -/
def Fault.message (fault : Fault) : String :=
  s!"{fault.problem.message} at line {fault.line} column {fault.column}"

/-- The place of a stop in the whole text. -/
def Stop.locate (text : Bytes) (s : Stop) : Fault :=
  let passed := text.take (text.length - s.after.length)
  ⟨s.problem, 1 + passed.count 10, (passed.reverse.takeWhile (· ≠ 10)).length⟩

end Courier.Json
