import Phrasebook.Text.Lowercase
import Phrasebook.Text.Space

/-! # Lines of a script

A line is a command, a name and a tail: `/cast "Stone Skin" <wait.3>`. The name is either quoted, or
the bare text up to the first placeholder. Commands whose text is free never name anything, and a
line that does not start with a command is not looked at any further.
-/

namespace Phrasebook

/-- The commands that text follows and no name: chat, emotes and waiting. -/
def passThroughCommands : List String :=
  [ "/echo", "/p", "/party", "/s", "/say", "/y", "/yell", "/sh", "/shout", "/tell", "/t", "/a",
    "/alliance", "/fc", "/linkshell", "/cwls1", "/cwls2", "/cwls3", "/cwls4", "/cwls5", "/cwls6",
    "/cwls7", "/cwls8", "/wait", "/merror", "/macroerror" ]

/-- Whether a command is passed through, in any case. -/
def isPassThrough (command : String) : Bool :=
  passThroughCommands.contains (Text.lowercase command)

/-- The text behind a command, split around its name. `padding` is the space behind a bare name that
    ends the text: it counts as part of what was written for the name. -/
structure Split where
  lead : List Char
  name : List Char
  isQuoted : Bool
  padding : List Char
  tail : List Char
  deriving Repr, DecidableEq

namespace Split

/-- The name as it is written, with its quotes or its padding. -/
def token (split : Split) : List Char :=
  if split.isQuoted then '"' :: split.name ++ ['"'] else split.name ++ split.padding

/-- The text that was split. -/
def whole (split : Split) : List Char :=
  split.lead ++ split.token ++ split.tail

end Split

/-- A character that ends a bare name. -/
def endsName (c : Char) : Bool :=
  c == '<' || c == '"'

/-- The quoted name at the start of a text behind its opening quote: at least one character up to
    the closing quote. -/
def quotedName? (lead inside : List Char) : Option Split :=
  let name := inside.takeWhile (· != '"')
  match name, inside.dropWhile (· != '"') with
  | _ :: _, _ :: tail => some { lead, name, isQuoted := true, padding := [], tail }
  | _, _ => none

/-- The bare name at the start of a text: all of it, or what stands before a placeholder. A quote in
    it spoils it. -/
def bareName? (lead text : List Char) : Option Split :=
  let run := text.takeWhile fun c => !endsName c
  let after := text.dropWhile fun c => !endsName c
  let name := Text.trimEnd Text.isSpace run
  let space := Text.endRun Text.isSpace run
  match run, after with
  | [], _ => none
  | _, [] => some { lead, name, isQuoted := false, padding := space, tail := [] }
  | _, '<' :: _ => some { lead, name, isQuoted := false, padding := [], tail := space ++ after }
  | _, _ => none

/-- Find the name in the text behind a command. -/
def splitName? (text : List Char) : Option Split :=
  let lead := text.takeWhile Text.isSpace
  match text.dropWhile Text.isSpace with
  | [] => none
  | '"' :: inside => quotedName? lead inside
  | start => bareName? lead start

structure NamedCommand where
  command : List Char
  split : Split
  deriving Repr, DecidableEq

inductive Line where
  /-- Plain text, or a slash with no command after it. -/
  | notCommand
  | passThrough
  | noName
  | named (named : NamedCommand)
  deriving Repr, DecidableEq

namespace Line

/-- Read a line without the space around it. -/
def readTrimmed : List Char → Line
  | '/' :: rest =>
      match rest.takeWhile fun c => !Text.isSpace c with
      | [] => .notCommand
      | word =>
          let command := '/' :: word
          if isPassThrough (String.ofList command) then .passThrough
          else
            match splitName? (rest.dropWhile fun c => !Text.isSpace c) with
            | some split => .named ⟨command, split⟩
            | none => .noName
  | _ => .notCommand

/-- Read a line. The space around it is ignored. -/
def read (line : List Char) : Line :=
  readTrimmed (Text.trimBoth Text.isSpace line)

end Line

/-! ## Spans -/

/-- Where a name lies in the text behind a command, in bytes of UTF-8: from its first character or
    quote up to its end. -/
structure NameSpan where
  name : String
  start : Nat
  stop : Nat
  isQuoted : Bool
  deriving Repr, DecidableEq

/-- The span of the name in a split. -/
def Split.span (split : Split) : NameSpan :=
  let start := (String.ofList split.lead).utf8ByteSize
  { name := String.ofList split.name
    start := start
    stop := start + (String.ofList split.token).utf8ByteSize
    isQuoted := split.isQuoted }

end Phrasebook
