import Phrasebook.Json.Cursor

/-! # Reading JSON

A reader of whole values. Arrays and objects may be nested 127 deep. The recursion is on a number of
steps that any text stays below: every character costs at most two.
-/

namespace Phrasebook.Json

/-- The number of nested arrays and objects that is one too many. -/
def depthLimit : Nat := 128

/-- What a letter's word stands for: the rest of the word and its value. -/
def wordOf? (c : Char) : Option (List Char × Json) :=
  match c with
  | 'n' => some (['u', 'l', 'l'], .null)
  | 't' => some (['r', 'u', 'e'], .bool true)
  | 'f' => some (['a', 'l', 's', 'e'], .bool false)
  | _ => none

/-- A value without inner structure, by its first character. `none` when the character starts no
    such value. -/
def scalar? (c : Char) (rest : List Char) (cursor : Cursor) :
    Option (Except Fault (Json × Cursor)) :=
  match wordOf? c with
  | some (letters, value) =>
      some ((word letters (cursor.past c rest)).map fun next => (value, next))
  | none =>
      if c == '"' then
        some ((stringBody (cursor.past c rest)).map fun (text, next) => (.string text, next))
      else if c == '-' then
        some ((unsignedNumber true (cursor.past c rest)).map fun (n, next) => (.number n, next))
      else if c.isDigit then
        some ((unsignedNumber false cursor).map fun (n, next) => (.number n, next))
      else none

/-- The colon behind a field's name. -/
def colon (cursor : Cursor) : Except Fault Cursor :=
  let cursor := cursor.skipBlanks
  match cursor.rest with
  | [] => .error (cursor.faultAhead .endInObject)
  | c :: rest =>
      if c == ':' then .ok (cursor.past c rest) else .error (cursor.faultAhead .expectedColon)

/-- What follows in an array: its end, or another item. -/
inductive Next where
  | done (cursor : Cursor)
  | more (cursor : Cursor)

/-- Read up to the next item of an array; `first` until one was read. -/
def nextItem (first : Bool) (cursor : Cursor) : Except Fault Next :=
  let cursor := cursor.skipBlanks
  match cursor.rest with
  | [] => .error (cursor.faultAhead .endInList)
  | c :: rest =>
      if c == ']' then .ok (.done (cursor.past c rest))
      else if first then .ok (.more cursor)
      else if c == ',' then
        let cursor := (cursor.past c rest).skipBlanks
        match cursor.rest with
        | [] => .error (cursor.faultAhead .endInValue)
        | c :: _ =>
            if c == ']' then .error (cursor.faultAhead .trailingComma) else .ok (.more cursor)
      else .error (cursor.faultAhead .expectedListCommaOrEnd)

/-- Read up to the next field of an object, past its opening quote; `first` until one was read. -/
def nextField (first : Bool) (cursor : Cursor) : Except Fault Next :=
  let cursor := cursor.skipBlanks
  match cursor.rest with
  | [] => .error (cursor.faultAhead .endInObject)
  | c :: rest =>
      if c == '}' then .ok (.done (cursor.past c rest))
      else if first then
        if c == '"' then .ok (.more (cursor.past c rest))
        else .error (cursor.faultAhead .keyMustBeString)
      else if c == ',' then
        let cursor := (cursor.past c rest).skipBlanks
        match cursor.rest with
        | [] => .error (cursor.faultAhead .endInValue)
        | c :: rest =>
            if c == '"' then .ok (.more (cursor.past c rest))
            else if c == '}' then .error (cursor.faultAhead .trailingComma)
            else .error (cursor.faultAhead .keyMustBeString)
      else .error (cursor.faultAhead .expectedObjectCommaOrEnd)

mutual

/-- A value; `depth` is one more than the levels that may still be opened. -/
def value : Nat → Nat → Cursor → Except Fault (Json × Cursor)
  | 0, _, cursor => .error (cursor.fault .tooDeep)
  | steps + 1, depth, cursor =>
      let cursor := cursor.skipBlanks
      match cursor.rest with
      | [] => .error (cursor.faultAhead .endInValue)
      | c :: rest =>
          match scalar? c rest cursor with
          | some read => read
          | none =>
              if c == '[' then
                if depth ≤ 1 then .error (cursor.faultAhead .tooDeep)
                else
                  (items steps (depth - 1) true (cursor.past c rest)).map fun (all, next) =>
                    (.array all, next)
              else if c == '{' then
                if depth ≤ 1 then .error (cursor.faultAhead .tooDeep)
                else
                  (fields steps (depth - 1) true [] (cursor.past c rest)).map fun (all, next) =>
                    (.object all, next)
              else .error (cursor.faultAhead .expectedValue)

/-- The items of an array up to its closing bracket. -/
def items : Nat → Nat → Bool → Cursor → Except Fault (List Json × Cursor)
  | 0, _, _, cursor => .error (cursor.fault .tooDeep)
  | steps + 1, depth, first, cursor => do
      match ← nextItem first cursor with
      | .done next => .ok ([], next)
      | .more next =>
          let (item, next) ← value steps depth next
          let (others, next) ← items steps depth false next
          .ok (item :: others, next)

/-- The fields of an object up to its closing brace, added to those read before. -/
def fields : Nat → Nat → Bool → List (String × Json) → Cursor →
    Except Fault (List (String × Json) × Cursor)
  | 0, _, _, _, cursor => .error (cursor.fault .tooDeep)
  | steps + 1, depth, first, before, cursor => do
      match ← nextField first cursor with
      | .done next => .ok (before, next)
      | .more next =>
          let (name, next) ← stringBody next
          let next ← colon next
          let (item, next) ← value steps depth next
          fields steps depth false (insertField name item before) next

end

/-- Refuse anything but blanks. -/
def endOfText (cursor : Cursor) : Except Fault Unit :=
  let cursor := cursor.skipBlanks
  match cursor.rest with
  | [] => .ok ()
  | _ :: _ => .error (cursor.faultAhead .trailingCharacters)

/-- Enough steps for a text. -/
def stepsFor (text : List Char) : Nat :=
  2 * text.length + 2

/-- The value that a text holds, with a fault where it was met. -/
def readChars (text : List Char) : Except Fault Json := do
  let (read, next) ← value (stepsFor text) depthLimit (Cursor.start text)
  endOfText next
  .ok read

/-- The value that a text holds. -/
def parse (text : String) : Except Error Json :=
  (readChars text.toList).mapError (Fault.located text.toList)

end Phrasebook.Json
