import Phrasebook.Index
import Phrasebook.Line

/-! # Translating a line

The name on a line is looked up and written in another language. A name that is not known leaves the
line as it is; a name with no counterpart in the language is kept, and the line is still set anew.
-/

namespace Phrasebook

inductive LineOutcome where
  | notCommand
  | passThrough
  | noName
  | unknownName (name : String)
  /-- `fallback` when the language has no name of its own and the one on the line was kept. -/
  | translated (name replacement : String) (fallback : Bool)
  deriving Repr, DecidableEq

namespace LineOutcome

def isTranslated : LineOutcome → Bool
  | .translated .. => true
  | _ => false

def toJson : LineOutcome → Json
  | .notCommand => Json.ofFields [("kind", .string "not_command")]
  | .passThrough => Json.ofFields [("kind", .string "pass_through")]
  | .noName => Json.ofFields [("kind", .string "no_name")]
  | .unknownName name => Json.ofFields [("kind", .string "unknown_name"), ("name", .string name)]
  | .translated name replacement fallback =>
      Json.ofFields
        [ ("kind", .string "translated"),
          ("name", .string name),
          ("replacement", .string replacement),
          ("fallback", .bool fallback) ]

end LineOutcome

/-- A name as it is written on a line: in quotes when it holds space, or when it stood in quotes. -/
def quoteIfNeeded (name : List Char) (keepQuotes : Bool) : List Char :=
  if keepQuotes || name.any Text.isSpace then '"' :: name ++ ['"'] else name

/-- A line set anew: the command, one space, what replaces the name, and the tail as it was. -/
def rebuild (command replacement tail : List Char) : List Char :=
  command ++ ' ' :: replacement ++ tail

/-- The name to write for an entry found under `name`, and whether that is `name` itself for want of
    another. -/
def replacementFor (entry : Entry) (target : Language) (name : String) : String × Bool :=
  let localized := entry.name target
  if localized = "" then (name, true) else (localized, false)

/-- Translate one line into a language; also tell what became of it. -/
def translateLine (index : Index) (target : Language) (line : String) : String × LineOutcome :=
  match Line.read line.toList with
  | .notCommand => (line, .notCommand)
  | .passThrough => (line, .passThrough)
  | .noName => (line, .noName)
  | .named ⟨command, split⟩ =>
      let name := String.ofList split.name
      match index.lookup name with
      | none => (line, .unknownName name)
      | some entry =>
          let (replacement, fallback) := replacementFor entry target name
          let written := quoteIfNeeded replacement.toList split.isQuoted
          (String.ofList (rebuild command written split.tail),
            .translated name replacement fallback)

end Phrasebook
