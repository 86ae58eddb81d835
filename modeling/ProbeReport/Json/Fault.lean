import ProbeReport.Text.Digit

namespace ProbeReport

-- A place in a text: the line is one more than the line feeds before it, the column the
-- number of bytes since the last of them.
structure Position where
  line : Nat
  column : Nat
  deriving Repr, DecidableEq, Inhabited

namespace Position

def start : Position := ⟨1, 0⟩

def advance (p : Position) (byte : UInt8) : Position :=
  if byte = 10 then ⟨p.line + 1, 0⟩ else ⟨p.line, p.column + 1⟩

-- The place reached when the given bytes have been read.
def after (bytes : List UInt8) : Position :=
  bytes.foldl advance start

end Position

namespace Json

-- What stood where the text of a number was required.
inductive Found where
  | null
  | bool (value : Bool)
  | integer (spelling : String)
  | number
  | array
  | object
  deriving Repr, DecidableEq

-- Why a text is not a JSON document.
inductive Cause where
  | endInValue
  | endInString
  | endInList
  | endInObject
  | expectedWord
  | expectedValue
  | expectedColon
  | expectedListEnd
  | expectedObjectEnd
  | invalidEscape
  | invalidNumber
  | controlCharacter
  | loneSurrogate
  | unfinishedSurrogate
  | keyNotString
  | trailingComma
  | trailingCharacters
  | recursionLimit
  -- a number object whose member is not a string
  | notNumberText (found : Found)
  -- a number object whose text is no number, with the place inside that text
  | badNumberText (truncated : Bool) (place : Position)
  deriving Repr, DecidableEq

inductive Category where
  | syntactic
  | truncated
  | data
  deriving Repr, DecidableEq

def Found.text : Found → String
  | .null => "null"
  | .bool true => "boolean `true`"
  | .bool false => "boolean `false`"
  | .integer spelling => "integer `" ++ spelling ++ "`"
  | .number => "number"
  | .array => "sequence"
  | .object => "map"

def Cause.text : Cause → String
  | .endInValue => "EOF while parsing a value"
  | .endInString => "EOF while parsing a string"
  | .endInList => "EOF while parsing a list"
  | .endInObject => "EOF while parsing an object"
  | .expectedWord => "expected ident"
  | .expectedValue => "expected value"
  | .expectedColon => "expected `:`"
  | .expectedListEnd => "expected `,` or `]`"
  | .expectedObjectEnd => "expected `,` or `\x7d`"
  | .invalidEscape => "invalid escape"
  | .invalidNumber => "invalid number"
  | .controlCharacter => "control character (\\u0000-\\u001F) found while parsing a string"
  | .loneSurrogate => "lone leading surrogate in hex escape"
  | .unfinishedSurrogate => "unexpected end of hex escape"
  | .keyNotString => "key must be a string"
  | .trailingComma => "trailing comma"
  | .trailingCharacters => "trailing characters"
  | .recursionLimit => "recursion limit exceeded"
  | .notNumberText found =>
    "invalid type: " ++ found.text ++ ", expected string containing a number"
  | .badNumberText true _ => "EOF while parsing a value"
  | .badNumberText false _ => "invalid number"

def Cause.category : Cause → Category
  | .endInValue | .endInString | .endInList | .endInObject => .truncated
  | .notNumberText _ | .badNumberText _ _ => .data
  | _ => .syntactic

-- A rejected document: the reason and the place that is reported with it.
structure Fault where
  cause : Cause
  position : Position
  deriving Repr, DecidableEq

def Fault.message (f : Fault) : String :=
  f.cause.text ++ " at line " ++ toString f.position.line ++
    " column " ++ toString f.position.column

end Json

end ProbeReport
