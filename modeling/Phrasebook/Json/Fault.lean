import Phrasebook.Json.Value
import Phrasebook.Json.Printer
import Phrasebook.Text.Quoted

/-! # What can be wrong with JSON

A text can break the grammar, and a value can be of the wrong shape for what it is read as. Either
way the reason is one of a fixed list; reading a text also tells where, as a line and a column.
-/

namespace Phrasebook.Json

/-- What stands where something else was expected. -/
inductive Found where
  | null
  | bool (value : Bool)
  | number (value : Json.Number)
  | string (value : String)
  | sequence
  | map
  deriving Repr, DecidableEq

/-- How a message names what was found. -/
def Found.describe : Found → String
  | .null => "null"
  | .bool value => "boolean `" ++ (if value then "true" else "false") ++ "`"
  | .number (.integer value) =>
      "integer `" ++ String.ofList (Number.integer value).text ++ "`"
  | .number (.binary negative magnitude) =>
      "floating point `" ++ String.ofList (binaryText negative magnitude) ++ "`"
  | .string value => "string " ++ Text.quoted value
  | .sequence => "sequence"
  | .map => "map"

/-- What a value is, for a message about it. -/
def found : Json → Found
  | .null => .null
  | .bool value => .bool value
  | .number value => .number value
  | .string value => .string value
  | .array _ => .sequence
  | .object _ => .map

/-- Why a text or a value is refused. -/
inductive Reason where
  /-- The text ends where a value should start or go on. -/
  | endInValue
  | endInString
  | endInList
  | endInObject
  | expectedColon
  | expectedListCommaOrEnd
  | expectedObjectCommaOrEnd
  /-- A word that starts like `null`, `true` or `false` and goes on differently. -/
  | expectedWord
  | expectedValue
  | invalidEscape
  | invalidNumber
  | numberOutOfRange
  /-- A half of a surrogate pair without the other half. -/
  | loneSurrogate
  | endOfHexEscape
  | controlCharacter
  | keyMustBeString
  | trailingComma
  | trailingCharacters
  | tooDeep
  | wrongType (found : Found) (expected : String)
  | wrongLength (length : Nat)
  | notOneKey
  | unknownVariant (given : String) (known : List String)
  | duplicateField (name : String)
  deriving Repr, DecidableEq

/-- Names between backquotes, as a message lists alternatives. -/
def Reason.alternatives (names : List String) : String :=
  ", ".intercalate (names.map fun name => "`" ++ name ++ "`")

def Reason.message : Reason → String
  | .endInValue => "EOF while parsing a value"
  | .endInString => "EOF while parsing a string"
  | .endInList => "EOF while parsing a list"
  | .endInObject => "EOF while parsing an object"
  | .expectedColon => "expected `:`"
  | .expectedListCommaOrEnd => "expected `,` or `]`"
  | .expectedObjectCommaOrEnd => "expected `,` or `\x7d`"
  | .expectedWord => "expected ident"
  | .expectedValue => "expected value"
  | .invalidEscape => "invalid escape"
  | .invalidNumber => "invalid number"
  | .numberOutOfRange => "number out of range"
  | .loneSurrogate => "lone leading surrogate in hex escape"
  | .endOfHexEscape => "unexpected end of hex escape"
  | .controlCharacter => "control character (\\u0000-\\u001F) found while parsing a string"
  | .keyMustBeString => "key must be a string"
  | .trailingComma => "trailing comma"
  | .trailingCharacters => "trailing characters"
  | .tooDeep => "recursion limit exceeded"
  | .wrongType found expected => "invalid type: " ++ found.describe ++ ", expected " ++ expected
  | .wrongLength length =>
      "invalid length " ++ toString length ++ ", expected fewer elements in array"
  | .notOneKey => "invalid value: map, expected map with a single key"
  | .unknownVariant given known =>
      "unknown variant `" ++ given ++ "`, expected one of " ++ alternatives known
  | .duplicateField name => "duplicate field `" ++ name ++ "`"

/-- A place in a text: the line, from one, and the bytes before the place on its line. -/
structure Position where
  line : Nat
  column : Nat
  deriving Repr, DecidableEq

/-- The place after the given number of bytes. -/
def Position.after (bytes : Nat) (text : List Char) : Position :=
  go 1 0 bytes text
where
  go (line column bytes : Nat) : List Char → Position
    | [] => ⟨line, column⟩
    | c :: rest =>
        if bytes = 0 then ⟨line, column⟩
        else if c = '\n' then go (line + 1) 0 (bytes - 1) rest
        else go line (column + min c.utf8Size bytes) (bytes - c.utf8Size) rest

/-- A reason and, when a text was read, the number of its bytes before the fault. -/
structure Fault where
  reason : Reason
  index : Nat
  deriving Repr, DecidableEq

/-- A refusal as it is reported. -/
structure Error where
  reason : Reason
  position : Option Position
  deriving Repr, DecidableEq

def Error.message (error : Error) : String :=
  match error.position with
  | none => error.reason.message
  | some place =>
      error.reason.message ++ " at line " ++ toString place.line ++ " column " ++
        toString place.column

/-- A refusal of a value that was read completely. -/
def Reason.unplaced (reason : Reason) : Error :=
  ⟨reason, none⟩

/-- A fault with its place in the text it was found in. -/
def Fault.located (text : List Char) (fault : Fault) : Error :=
  ⟨fault.reason, some (Position.after fault.index text)⟩

end Phrasebook.Json
