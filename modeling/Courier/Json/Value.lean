import Courier.Json.Layout
import Courier.TextMap

/-!
# JSON documents

A document of any shape. Its objects keep their members in ascending order of keys, and of a key
that is given twice the last value, so a document is written back in one form only: compact, with
sorted members. Lists and objects may be nested 127 deep.
-/

namespace Courier.Json

/-- A document. -/
inductive Value where
  | null
  | boolean (b : Bool)
  | number (n : Number)
  | text (t : String)
  | list (items : List Value)
  | object (members : List (String × Value))

/-- The bytes of an ASCII word. -/
def word (w : String) : Bytes := Text.Utf8.encode w

mutual

/-- A document as JSON. -/
def Value.write : Value → Bytes
  | .null => word "null"
  | .boolean true => word "true"
  | .boolean false => word "false"
  | .number n => word n.text
  | .text t => writeText t
  | .list items => 91 :: Value.writeItems items
  | .object members => 123 :: Value.writeMembers members

/-- The items of a list and its closing bracket. -/
def Value.writeItems : List Value → Bytes
  | [] => [93]
  | [v] => v.write ++ [93]
  | v :: w :: rest => v.write ++ 44 :: Value.writeItems (w :: rest)

/-- The members of an object and its closing bracket. -/
def Value.writeMembers : List (String × Value) → Bytes
  | [] => [125]
  | [(k, v)] => writeText k ++ 58 :: v.write ++ [125]
  | (k, v) :: m :: rest => writeText k ++ 58 :: v.write ++ 44 :: Value.writeMembers (m :: rest)

end

/-- How many lists and objects may stand inside each other. -/
def deepest : Nat := 127

/-- Read a document with at most some depth. -/
def readValue (depth : Nat) (s : Bytes) : Read Value :=
  match skipBlank s with
  | [] => stop .endOfValue []
  | b :: rest =>
    if b = 110 then (readWord nullTail rest).map fun rest => (.null, rest)
    else if b = 116 then (readWord trueTail rest).map fun rest => (.boolean true, rest)
    else if b = 102 then (readWord falseTail rest).map fun rest => (.boolean false, rest)
    else if startsNumber b then
      (readNumber (b :: rest)).map fun (n, rest) => (.number n, rest)
    else if b = quoteByte then (readText rest).map fun (t, rest) => (.text t, rest)
    else if b = 91 then
      match depth with
      | 0 => stop .tooDeep rest
      | inner + 1 =>
        (readItems (readValue inner) true (rest.length + 1) rest).map
          fun (items, rest) => (.list items, rest)
    else if b = 123 then
      match depth with
      | 0 => stop .tooDeep rest
      | inner + 1 =>
        (readMembers (readMemberValue (readValue inner) insertEntry) true []
          (rest.length + 1) rest).map fun (members, rest) => (.object members, rest)
    else stopAt .expectedValue (b :: rest)

/-- Read a text that holds one document. -/
def Value.read (text : Bytes) : Except Fault Value := readWhole (readValue deepest) text

/-- What stands at a place where something else was expected, and the bytes behind it. -/
def readFound (s : Bytes) : Read Found :=
  match s with
  | [] => stopAt .expectedValue []
  | b :: rest =>
    if b = 110 then (readWord nullTail rest).map fun rest => (.null, rest)
    else if b = 116 then (readWord trueTail rest).map fun rest => (.boolean true, rest)
    else if b = 102 then (readWord falseTail rest).map fun rest => (.boolean false, rest)
    else if startsNumber b then
      (readNumber (b :: rest)).map fun (n, rest) => (n.found, rest)
    else if b = quoteByte then (readText rest).map fun (t, rest) => (.text t, rest)
    else if b = 91 then .ok (.sequence, b :: rest)
    else if b = 123 then .ok (.map, b :: rest)
    else stopAt .expectedValue (b :: rest)

/-- Refuse what stands at a place because something else was expected. -/
def refuseFound {α : Type} (expected : String) (s : Bytes) : Except Stop α :=
  match readFound s with
  | .error e => .error e
  | .ok (found, rest) => refuse (.invalidType found expected) rest

end Courier.Json
