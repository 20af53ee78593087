import Courier.Mismatch

/-!
# Why a YAML text cannot be read

A text is refused because it is no YAML, with the place where this shows, or because the
document in it is not what was expected.
-/

namespace Courier.Yaml

/-- A place in a text; lines and columns are counted from zero. -/
structure Place where
  line : Nat
  column : Nat
deriving DecidableEq, Repr

/-- Text that is not YAML. -/
inductive Malformed where
  | characterNotAllowed
  | keyWithoutValue
  | blockEntryNotAllowed
  | keyNotAllowed
  | valueNotAllowed
  | noTokenStart
  | unknownDirective
  | directiveName
  | directiveEnd
  | version
  | versionTooLong
  | tagDirective
  | anchorName
  | tagHandle
  | tagEnd
  | tagText
  | tagEscape
  | indentationZero
  | indentationTab
  | scalarAcrossDocuments
  | scalarWithoutEnd
  | unknownEscape
  | escapeDigits
  | escapeCodePoint
  | colonInScalar
  | tabInScalar
  | documentStart
  | repeatedVersion
  | unsupportedVersion
  | repeatedTagHandle
  | undefinedTagHandle
  | nodeContent
  | blockEntry
  | blockKey
  | flowSequenceEnd
  | flowMappingEnd
  | unknownAnchor
deriving DecidableEq, Repr

/-- The wording of what is malformed. -/
def Malformed.message : Malformed → String
  | .characterNotAllowed => "control characters are not allowed"
  | .keyWithoutValue => "could not find expected ':'"
  | .blockEntryNotAllowed => "block sequence entries are not allowed in this context"
  | .keyNotAllowed => "mapping keys are not allowed in this context"
  | .valueNotAllowed => "mapping values are not allowed in this context"
  | .noTokenStart => "found character that cannot start any token"
  | .unknownDirective => "found unknown directive name"
  | .directiveName => "could not find expected directive name"
  | .directiveEnd => "did not find expected comment or line break"
  | .version => "did not find expected version number"
  | .versionTooLong => "found extremely long version number"
  | .tagDirective => "did not find expected whitespace"
  | .anchorName => "did not find expected alphabetic or numeric character"
  | .tagHandle => "did not find expected '!'"
  | .tagEnd => "did not find expected whitespace or line break"
  | .tagText => "did not find expected tag URI"
  | .tagEscape => "found an incorrect URI escape"
  | .indentationZero => "found an indentation indicator equal to 0"
  | .indentationTab => "found a tab character where an indentation space is expected"
  | .scalarAcrossDocuments => "found unexpected document indicator"
  | .scalarWithoutEnd => "found unexpected end of stream"
  | .unknownEscape => "found unknown escape character"
  | .escapeDigits => "did not find expected hexadecimal number"
  | .escapeCodePoint => "found invalid Unicode character escape code"
  | .colonInScalar => "found unexpected ':'"
  | .tabInScalar => "found a tab character that violates indentation"
  | .documentStart => "did not find expected <document start>"
  | .repeatedVersion => "found duplicate %YAML directive"
  | .unsupportedVersion => "found incompatible YAML document"
  | .repeatedTagHandle => "found duplicate %TAG directive"
  | .undefinedTagHandle => "found undefined tag handle"
  | .nodeContent => "did not find expected node content"
  | .blockEntry => "did not find expected '-' indicator"
  | .blockKey => "did not find expected key"
  | .flowSequenceEnd => "did not find expected ',' or ']'"
  | .flowMappingEnd => "did not find expected ',' or '\x7d'"
  | .unknownAnchor => "unknown anchor"

/-- What is malformed, and where. -/
structure Flaw where
  what : Malformed
  place : Place
deriving DecidableEq, Repr

/-- The wording of a flaw. -/
def Flaw.message (flaw : Flaw) : String :=
  s!"{flaw.what.message} at line {flaw.place.line + 1} column {flaw.place.column + 1}"

/-- Why a text cannot be read. -/
inductive Fault where
  | malformed (flaw : Flaw)
  | unfit (what : Mismatch)
  /-- Sequences and mappings stand too deep inside each other. -/
  | tooDeep
  /-- Aliases are followed too often for the size of the text. -/
  | tooManyAliases
  /-- Another document follows. -/
  | severalDocuments
  /-- An integer of a document of any shape needs more than sixty-four bits. -/
  | numberOutOfRange
deriving DecidableEq, Repr

/-- The wording of a fault. -/
def Fault.message : Fault → String
  | .malformed flaw => flaw.message
  | .unfit what => what.message
  | .tooDeep => "recursion limit exceeded"
  | .tooManyAliases => "repetition limit exceeded"
  | .severalDocuments => "deserializing from YAML containing more than one document is not supported"
  | .numberOutOfRange => "JSON number out of range"

end Courier.Yaml
