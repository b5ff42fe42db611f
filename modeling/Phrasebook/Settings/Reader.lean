import Phrasebook.Json.Skipper
import Phrasebook.Settings

/-! # Reading settings from a text

Settings are taken from their text while it is read, so that a value of the wrong kind is reported
with its place. A value of the wrong kind is read to its end if it is scalar and not entered if it
holds others; the first fault in the text decides.
-/

namespace Phrasebook.Settings

open Json (Cursor Fault Reason)

/-- A reader of one thing in a text. -/
abbrev Reader (α : Type) := Cursor → Except Fault (α × Cursor)

/-- The fault of a value that is not the `expected` thing, at its first character. -/
def refusal (expected : String) (cursor : Cursor) : Fault :=
  match cursor.rest with
  | [] => cursor.faultAhead .endInValue
  | c :: rest =>
      match Json.scalar? c rest cursor with
      | some (.ok (value, next)) => next.fault (value.mismatch expected)
      | some (.error fault) => fault
      | none =>
          if c == '[' then cursor.fault (.wrongType .sequence expected)
          else if c == '{' then cursor.fault (.wrongType .map expected)
          else cursor.faultAhead .expectedValue

/-- A scalar, if `accept` takes it for the `expected` thing. -/
def readScalar {α : Type} (expected : String) (accept : Json → Option α) : Reader α := fun cursor =>
  let cursor := cursor.skipBlanks
  match cursor.rest with
  | [] => .error (cursor.faultAhead .endInValue)
  | c :: rest =>
      match Json.scalar? c rest cursor with
      | some (.ok (value, next)) =>
          match accept value with
          | some meant => .ok (meant, next)
          | none => .error (next.fault (value.mismatch expected))
      | some (.error fault) => .error fault
      | none => .error (refusal expected cursor)

def readString : Reader String :=
  readScalar "a string" Json.string?

def readBool : Reader Bool :=
  readScalar "a boolean" Json.bool?

/-- Nothing, written as null. -/
def readUnit : Reader Unit :=
  readScalar "unit" fun value => match value with
    | .null => some ()
    | _ => none

/-- The items of a list of texts up to its closing bracket. -/
def readStrings : Nat → Bool → Reader (List String)
  | 0, _, cursor => .error (cursor.fault .tooDeep)
  | steps + 1, first, cursor => do
      match ← Json.nextItem first cursor with
      | .done next => .ok ([], next)
      | .more next =>
          let (item, next) ← readString next
          let (others, next) ← readStrings steps false next
          .ok (item :: others, next)

def readSources : Reader (List String) := fun cursor =>
  let cursor := cursor.skipBlanks
  match cursor.rest with
  | '[' :: rest => readStrings (rest.length + 1) true (cursor.past '[' rest)
  | _ => .error (refusal "a sequence" cursor)

/-- The language of a code, or a fault behind the code. -/
def variant (given : String) (cursor : Cursor) : Except Fault Language :=
  match Language.byCode.lookup given with
  | some language => .ok language
  | none => .error (cursor.fault (.unknownVariant given (Language.byCode.map Prod.fst)))

/-- The language whose code follows; its opening quote was read. -/
def readCode : Reader Language := fun cursor => do
  let (given, next) ← Json.stringBody cursor
  .ok (← variant given next, next)

/-- The language of an object with its code as the one key and null under it; the opening brace was
    read. -/
def readKeyedLanguage : Reader Language := fun cursor => do
  match ← Json.nextField true cursor with
  | .done next => .error (next.fault .expectedValue)
  | .more next =>
      let (language, next) ← readCode next
      let next ← Json.colon next
      let ((), next) ← readUnit next
      let next := next.skipBlanks
      match next.rest with
      | '}' :: rest => .ok (language, next.past '}' rest)
      | [] => .error (next.fault .endInObject)
      | _ => .error (next.fault .expectedValue)

/-- A language: its code, or an object with the code as its one key. -/
def readLanguage : Reader Language := fun cursor =>
  let cursor := cursor.skipBlanks
  match cursor.rest with
  | '"' :: rest => readCode (cursor.past '"' rest)
  | '{' :: rest => readKeyedLanguage (cursor.past '{' rest)
  | [] => .error (cursor.faultAhead .endInValue)
  | _ => .error (cursor.faultAhead .expectedValue)

/-- Settings with one of them read from a text. -/
def readSetting (key : Key) (settings : Settings) : Reader Settings := fun cursor => do
  match key with
  | .targetLanguage =>
      let (language, next) ← readLanguage cursor
      .ok ({ settings with targetLanguage := language }, next)
  | .dictionarySources =>
      let (sources, next) ← readSources cursor
      .ok ({ settings with dictionarySources := sources }, next)
  | .dedupeOnLoad =>
      let (dedupe, next) ← readBool cursor
      .ok ({ settings with dedupeOnLoad := dedupe }, next)

/-- The end of a list of which everything that counts was read. -/
def endOfList (cursor : Cursor) : Except Fault Cursor :=
  let cursor := cursor.skipBlanks
  match cursor.rest with
  | [] => .error (cursor.faultAhead .endInList)
  | ']' :: rest => .ok (cursor.past ']' rest)
  | ',' :: rest =>
      let next := (cursor.past ',' rest).skipBlanks
      match next.rest with
      | ']' :: _ => .error (next.faultAhead .trailingComma)
      | _ => .error (next.faultAhead .trailingCharacters)
  | _ => .error (cursor.faultAhead .trailingCharacters)

/-- Settings as a list of values in order; it may stop early. -/
def readList : List Key → Bool → Settings → Reader Settings
  | [], _, settings, cursor => do .ok (settings, ← endOfList cursor)
  | key :: keys, first, settings, cursor => do
      match ← Json.nextItem first cursor with
      | .done next => .ok (settings, next)
      | .more next =>
          let (settings, next) ← readSetting key settings next
          readList keys false settings next

/-- The place of a repeated field, given the place behind its name: blanks are passed over, and the
    closing brace if nothing else comes before it. -/
def placeOfRepeat (cursor : Cursor) : Cursor :=
  let cursor := cursor.skipBlanks
  match cursor.rest with
  | '}' :: rest => cursor.past '}' rest
  | _ => cursor

/-- Settings as named fields up to the closing brace. No setting may be given twice; names that mean
    no setting are passed over. -/
def readNamed : Nat → List Key → Bool → Settings → Reader Settings
  | 0, _, _, _, cursor => .error (cursor.fault .tooDeep)
  | steps + 1, seen, first, settings, cursor => do
      match ← Json.nextField first cursor with
      | .done next => .ok (settings, next)
      | .more next =>
          let (given, next) ← Json.stringBody next
          match Key.ofName? given with
          | none =>
              let next ← Json.colon next
              let next ← Json.skipValue (Json.stepsFor next.rest) next
              readNamed steps seen false settings next
          | some key =>
              if seen.contains key then
                .error ((placeOfRepeat next).fault (.duplicateField key.name))
              else
                let next ← Json.colon next
                let (settings, next) ← readSetting key settings next
                readNamed steps (key :: seen) false settings next

/-- Settings, named or in order. -/
def readSettings : Reader Settings := fun cursor =>
  let cursor := cursor.skipBlanks
  match cursor.rest with
  | '[' :: rest => readList Key.all true {} (cursor.past '[' rest)
  | '{' :: rest => readNamed (rest.length + 1) [] true {} (cursor.past '{' rest)
  | _ => .error (refusal "struct Settings" cursor)

/-- The settings that a text holds, with a fault where it was met. -/
def readChars (text : List Char) : Except Fault Settings := do
  let (settings, next) ← readSettings (Cursor.start text)
  Json.endOfText next
  .ok settings

def parse (text : String) : Except Json.Error Settings :=
  (readChars text.toList).mapError (Fault.located text.toList)

end Phrasebook.Settings
