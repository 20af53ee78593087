import Courier.Text.Quoted

/-!
# Data that does not fit

A document can be well formed and still not be what a reader wants: a member is missing, or a
number stands where a text should. A mismatch says what was found and what was expected; the
expectation is already in words.
-/

namespace Courier

/-- What stood in the place of the expected data. -/
inductive Found where
  /-- The word `null`. -/
  | null
  /-- A value that says that there is none. -/
  | unit
  | boolean (b : Bool)
  | integer (n : Int)
  /-- An integer that needs more than sixty-four bits, and whether it is negative. -/
  | wideInteger (n : Int)
  /-- A number with a fraction or an exponent, as it is written. -/
  | float (written : String)
  | text (t : String)
  | sequence
  | map
  /-- A value with a tag of its own. -/
  | tagged
deriving DecidableEq, Repr

/-- A name between backquotes. -/
def backquoted (name : String) : String := s!"`{name}`"

/-- How a message names what was found. -/
def Found.describe : Found → String
  | .null => "null"
  | .unit => "unit value"
  | .boolean b => "boolean " ++ backquoted (if b then "true" else "false")
  | .integer n => "integer " ++ backquoted (toString n)
  | .wideInteger n =>
    "integer " ++ backquoted (toString n) ++ " as " ++ if n < 0 then "i128" else "u128"
  | .float written => "floating point " ++ backquoted written
  | .text t => "string " ++ Text.quoted t
  | .sequence => "sequence"
  | .map => "map"
  | .tagged => "enum"

/-- Why well-formed data is not what was expected. -/
inductive Mismatch where
  | missingField (name : String)
  | duplicateField (name : String)
  | unknownField (name : String) (known : List String)
  /-- The wrong kind of data. -/
  | invalidType (found : Found) (expected : String)
  /-- The right kind of data, but out of range. -/
  | invalidValue (found : Found) (expected : String)
  | invalidLength (length : Nat) (expected : String)
deriving DecidableEq, Repr

/-- A choice among names. -/
def oneOf : List String → String
  | [] => "none"
  | [a] => backquoted a
  | [a, b] => backquoted a ++ " or " ++ backquoted b
  | names => "one of " ++ String.intercalate ", " (names.map backquoted)

/-- The wording of a mismatch. -/
def Mismatch.message : Mismatch → String
  | .missingField name => s!"missing field `{name}`"
  | .duplicateField name => s!"duplicate field `{name}`"
  | .unknownField name known =>
    if known.isEmpty then s!"unknown field `{name}`, there are no fields"
    else s!"unknown field `{name}`, expected {oneOf known}"
  | .invalidType found expected => s!"invalid type: {found.describe}, expected {expected}"
  | .invalidValue found expected => s!"invalid value: {found.describe}, expected {expected}"
  | .invalidLength length expected => s!"invalid length {length}, expected {expected}"

end Courier
