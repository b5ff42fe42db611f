import Phrasebook.Text.Lowercase
import Phrasebook.Text.Space

/-! # Content types

What kind of document a body is: a type and a subtype with a slash between them, and behind
semicolons parameters, of which one can name the character set. A content type that is not well
formed says nothing at all.
-/

namespace Phrasebook.Network

namespace ContentType

/-- The characters that types, names of parameters and values without quotes are made of. -/
def isToken (c : Char) : Bool :=
  c.isAlphanum || "!#$%&'*+-.^_\x60|~".toList.contains c

/-- The characters that may stand between quotes. There are no escapes. -/
def isVisible (c : Char) : Bool :=
  ' ' ≤ c && c ≤ '~'

/-- A parameter, as far as it was read. -/
structure Parameter where
  name : List Char := []
  value : List Char := []
  deriving Repr, DecidableEq

/-- Where a reader of parameters is. -/
inductive Place where
  | between
  | inName
  | inValue
  | inQuotes
  | behindQuotes
  deriving Repr, DecidableEq

/-- The parameters in a text that is read on from a place, unless it is not well formed. A quote
    opens a value only at its start, and closes it only behind its first character. -/
def readOn? : Place → Parameter → List Char → Option (List Parameter)
  | .between, _, [] => some []
  | .inName, _, [] | .inQuotes, _, [] => none
  | .inValue, read, [] | .behindQuotes, read, [] => some [read]
  | .between, _, c :: rest =>
      if c = ' ' then readOn? .between {} rest
      else if isToken c then readOn? .inName { name := [c] } rest
      else none
  | .inName, read, c :: rest =>
      if c = '=' then readOn? .inValue read rest
      else if isToken c then readOn? .inName { read with name := read.name ++ [c] } rest
      else none
  | .inValue, read, c :: rest =>
      if c = '"' ∧ read.value = [] then readOn? .inQuotes read rest
      else if c = ';' ∧ read.value ≠ [] then (readOn? .between {} rest).map (read :: ·)
      else if isToken c then readOn? .inValue { read with value := read.value ++ [c] } rest
      else none
  | .inQuotes, read, c :: rest =>
      if c = '"' ∧ read.value ≠ [] then readOn? .behindQuotes read rest
      else if isVisible c then readOn? .inQuotes { read with value := read.value ++ [c] } rest
      else none
  | .behindQuotes, read, c :: rest =>
      if c = ' ' then readOn? .behindQuotes read rest
      else if c = ';' then (readOn? .between {} rest).map (read :: ·)
      else none

/-- The parameters of a content type, if it is well formed. -/
def parameters? (contentType : String) : Option (List Parameter) :=
  let text := Text.trimBoth (fun c => c == ' ' || c == '\t') contentType.toList
  match text.span isToken with
  | (_ :: _, '/' :: rest) =>
      match rest.span isToken with
      | (_, []) => some []
      | (_ :: _, ';' :: rest) => readOn? .between {} rest
      | _ => none
  | _ => none

end ContentType

/-- The character set that a content type names. -/
def charset? (contentType : String) : Option String := do
  let parameters ← ContentType.parameters? contentType
  let charset ← parameters.find? fun parameter =>
    Text.lowerAscii (String.ofList parameter.name) == "charset"
  some (String.ofList charset.value)

end Phrasebook.Network
