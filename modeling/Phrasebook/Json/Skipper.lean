import Phrasebook.Json.Parser

/-! # Passing over JSON values

A field that nobody asked for is passed over without being read. That is more lenient than reading:
numbers may be of any size, escapes need not pair up, nesting has no limit. It also names some
faults differently.
-/

namespace Phrasebook.Json

/-- Pass over an exponent, its letter already read. -/
def skipExponent (cursor : Cursor) : Except Fault Cursor :=
  let cursor := match cursor.rest with
    | c :: rest => if c == '+' || c == '-' then cursor.past c rest else cursor
    | [] => cursor
  match cursor.rest with
  | [] => .error (cursor.fault .invalidNumber)
  | c :: _ =>
      if c.isDigit then .ok (digitRun cursor).2 else .error ⟨.invalidNumber, cursor.index + 1⟩

/-- Pass over what may follow the integer digits of a number. -/
def skipAfterInteger (cursor : Cursor) : Except Fault Cursor :=
  match cursor.rest with
  | [] => .ok cursor
  | c :: rest =>
      if c == '.' then
        let point := cursor.past c rest
        let (digits, after) := digitRun point
        if digits.isEmpty then .error (point.faultAhead .invalidNumber)
        else
          match after.rest with
          | [] => .ok after
          | c :: rest => if isExponentMark c then skipExponent (after.past c rest) else .ok after
      else if isExponentMark c then skipExponent (cursor.past c rest)
      else .ok cursor

/-- Pass over a number whose sign was read. -/
def skipNumber (cursor : Cursor) : Except Fault Cursor :=
  match cursor.rest with
  | [] => .error (cursor.fault .invalidNumber)
  | c :: rest =>
      if c == '0' then
        let after := cursor.past c rest
        if (rest.head?.map Char.isDigit).getD false then .error (after.faultAhead .invalidNumber)
        else skipAfterInteger after
      else if c.isDigit then skipAfterInteger (digitRun cursor).2
      else .error ⟨.invalidNumber, cursor.index + 1⟩

/-- Pass over the rest of a string. The two arguments that count are the bytes before and the
    characters behind the cursor; `escaped` when a backslash was just read. -/
def skipStringFrom (index : Nat) (escaped : Bool) : List Char → Except Fault Cursor
  | [] => .error ⟨.endInString, index⟩
  | c :: rest =>
      if escaped then
        if c == 'u' then
          match hexUnit ⟨index + 1, rest⟩ with
          | .error fault => .error fault
          | .ok _ => skipStringFrom (index + 1) false rest
        else if (shortEscape? c).isSome then skipStringFrom (index + 1) false rest
        else .error ⟨.invalidEscape, index + 1⟩
      else if c == '"' then .ok ⟨index + 1, rest⟩
      else if c == '\\' then skipStringFrom (index + 1) true rest
      else if c.toNat < 0x20 then .error ⟨.controlCharacter, index⟩
      else skipStringFrom (index + c.utf8Size) false rest

/-- Pass over a string, its opening quote already read. -/
def skipString (cursor : Cursor) : Except Fault Cursor :=
  skipStringFrom cursor.index false cursor.rest

/-- Pass over a field's name and colon, at the start of the name. -/
def skipName (cursor : Cursor) : Except Fault Cursor :=
  let cursor := cursor.skipBlanks
  match cursor.rest with
  | [] => .error (cursor.faultAhead .endInObject)
  | c :: rest =>
      if c == '"' then (skipString (cursor.past c rest)).bind colon
      else .error (cursor.faultAhead .keyMustBeString)

/-- The two kinds of value that hold others. -/
inductive Holder where
  | list
  | map

namespace Holder

def close : Holder → Char
  | .list => ']'
  | .map => '}'

/-- The reason when the text ends inside. -/
def endReason : Holder → Reason
  | .list => .endInList
  | .map => .endInObject

/-- The reason when something else follows an item. -/
def commaReason : Holder → Reason
  | .list => .expectedListCommaOrEnd
  | .map => .expectedObjectCommaOrEnd

end Holder

mutual

def skipValue : Nat → Cursor → Except Fault Cursor
  | 0, cursor => .error (cursor.fault .tooDeep)
  | steps + 1, cursor =>
      let cursor := cursor.skipBlanks
      match cursor.rest with
      | [] => .error (cursor.faultAhead .endInValue)
      | c :: rest =>
          match wordOf? c with
          | some (letters, _) => word letters (cursor.past c rest)
          | none =>
              if c == '"' then skipString (cursor.past c rest)
              else if c == '-' then skipNumber (cursor.past c rest)
              else if c.isDigit then skipNumber cursor
              else if c == '[' then skipItems steps .list true (cursor.past c rest)
              else if c == '{' then skipItems steps .map true (cursor.past c rest)
              else .error (cursor.faultAhead .expectedValue)

/-- Pass over the items of a list or map up to its end; `first` until one was passed. -/
def skipItems : Nat → Holder → Bool → Cursor → Except Fault Cursor
  | 0, _, _, cursor => .error (cursor.fault .tooDeep)
  | steps + 1, holder, first, cursor => do
      let cursor := cursor.skipBlanks
      match cursor.rest with
      | [] => .error (cursor.faultAhead holder.endReason)
      | c :: rest =>
          if c == holder.close then .ok (cursor.past c rest)
          else if first || c == ',' then
            let cursor := if first then cursor else cursor.past c rest
            let cursor ← match holder with
              | .list => .ok cursor
              | .map => skipName cursor
            let cursor ← skipValue steps cursor
            skipItems steps holder false cursor
          else .error (cursor.faultAhead holder.commaReason)

end

end Phrasebook.Json
