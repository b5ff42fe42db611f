import Phrasebook.Json.Value

/-! # Printing JSON

Two layouts. The compact one writes no space at all, for responses of one line. The indented one
puts every item on a line of its own, two spaces deeper than what holds it, for files.
-/

namespace Phrasebook.Json

open Phrasebook.Number

/-- Binary numbers are written without an exponent when the point stands in the first sixteen
    places, or up to four zeros follow it. -/
def numberLayout : Layout := ⟨-5, 16⟩

/-- The text of a binary number. -/
def binaryText (negative : Bool) (magnitude : Binary) : List Char :=
  (if negative then ['-'] else []) ++ (magnitude.shortest double).text numberLayout

def Number.text : Json.Number → List Char
  | .integer value => (if value < 0 then ['-'] else []) ++ Decimal.digitChars value.natAbs
  | .binary negative magnitude => binaryText negative magnitude

/-- One hexadecimal digit, in lower case. -/
def hexDigit (n : Nat) : Char :=
  Nat.digitChar (n % 16)

/-- How one character is written inside a string: quotes, backslashes and control characters below
    the space are escaped, all else stands for itself. -/
def escapedChar (c : Char) : List Char :=
  match c with
  | '"' => ['\\', '"']
  | '\\' => ['\\', '\\']
  | '\x08' => ['\\', 'b']
  | '\t' => ['\\', 't']
  | '\n' => ['\\', 'n']
  | '\x0c' => ['\\', 'f']
  | '\r' => ['\\', 'r']
  | c =>
      if c.toNat < 0x20 then
        ['\\', 'u', '0', '0', hexDigit (c.toNat / 16), hexDigit c.toNat]
      else [c]

/-- A string with its quotes. -/
def stringText (text : String) : List Char :=
  '"' :: text.toList.flatMap escapedChar ++ ['"']

mutual

/-- A value without any space. -/
def compactChars : Json → List Char
  | .null => "null".toList
  | .bool true => "true".toList
  | .bool false => "false".toList
  | .number n => n.text
  | .string text => stringText text
  | .array items => '[' :: compactItems items ++ [']']
  | .object fields => '{' :: compactFields fields ++ ['}']

def compactItems : List Json → List Char
  | [] => []
  | [item] => compactChars item
  | item :: rest => compactChars item ++ ',' :: compactItems rest

def compactFields : List (String × Json) → List Char
  | [] => []
  | [(name, value)] => stringText name ++ ':' :: compactChars value
  | (name, value) :: rest =>
      stringText name ++ ':' :: compactChars value ++ ',' :: compactFields rest

end

/-- A value on one line. -/
def compact (value : Json) : String :=
  String.ofList value.compactChars

/-- A new line at a depth. -/
def newLine (depth : Nat) : List Char :=
  '\n' :: List.replicate (2 * depth) ' '

mutual

/-- A value whose items start lines of their own; `depth` is that of the value itself. -/
def indentedChars (depth : Nat) : Json → List Char
  | .array [] => ['[', ']']
  | .array items => '[' :: indentedItems depth items ++ newLine depth ++ [']']
  | .object [] => ['{', '}']
  | .object fields => '{' :: indentedFields depth fields ++ newLine depth ++ ['}']
  | value => value.compactChars

/-- Items on lines of their own, one step deeper than `depth`, with commas between them. -/
def indentedItems (depth : Nat) : List Json → List Char
  | [] => []
  | [item] => newLine (depth + 1) ++ indentedChars (depth + 1) item
  | item :: rest =>
      newLine (depth + 1) ++ indentedChars (depth + 1) item ++ ',' :: indentedItems depth rest

/-- Fields on lines of their own, one step deeper than `depth`, with commas between them. -/
def indentedFields (depth : Nat) : List (String × Json) → List Char
  | [] => []
  | [(name, value)] =>
      newLine (depth + 1) ++ stringText name ++ [':', ' '] ++ indentedChars (depth + 1) value
  | (name, value) :: rest =>
      newLine (depth + 1) ++ stringText name ++ [':', ' '] ++ indentedChars (depth + 1) value ++
        ',' :: indentedFields depth rest

end

/-- A value over several lines, without a final newline. -/
def indented (value : Json) : String :=
  String.ofList (value.indentedChars 0)

end Phrasebook.Json
