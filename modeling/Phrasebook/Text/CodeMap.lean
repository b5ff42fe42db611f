import Phrasebook.Text.Digits

/-! # Maps from characters to sequences of characters

Large Unicode tables that give a character a sequence of others are written in rows of words. A word
that ends in a colon is the code point of the word behind it, and other words are the sequences for
one code point after the other, with plus signs between their members. All numbers are hexadecimal.
-/

namespace Phrasebook.Text

/-- A map from code points to sequences of code points, by rising code point. -/
structure CodeMap where
  entries : List (Nat × List Nat)
  deriving Repr, DecidableEq

namespace CodeMap

/-- The code point that a number of a row writes. -/
def ofDigits (text : List Char) : Nat :=
  (digits? 16 text).getD 0

/-- The entries that words make when the next sequence is for `code`. -/
def ofWords : Nat → List (List Char) → List (Nat × List Nat)
  | _, [] => []
  | code, word :: rest =>
      if word.getLast? = some ':' then ofWords (ofDigits word.dropLast) rest
      else (code, (word.splitOn '+').map ofDigits) :: ofWords (code + 1) rest

/-- The map that is written in some rows. -/
def ofRows (rows : List String) : CodeMap where
  entries := rows.flatMap fun row => ofWords 0 (row.toList.splitOn ' ')

/-- The sequence for a code point in entries by rising code point. The search stops at the first
    entry beyond it. -/
def findIn? : List (Nat × List Nat) → Nat → Option (List Nat)
  | [], _ => none
  | (key, sequence) :: rest, code =>
      if code < key then none
      else if code = key then some sequence
      else findIn? rest code

def find? (map : CodeMap) (code : Nat) : Option (List Nat) :=
  findIn? map.entries code

/-- The first code point that has the given sequence. -/
def findKey? (map : CodeMap) (sequence : List Nat) : Option Nat :=
  (map.entries.find? fun entry => entry.2 == sequence).map Prod.fst

end CodeMap
end Phrasebook.Text
