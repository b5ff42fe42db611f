/-! # Places in a text

A place in a text is told by the bytes of UTF-8 in front of it. A text can be cut at its ends and
between two of its characters. A place beyond its end or inside of a character is no place to cut.
-/

namespace Phrasebook.Text

/-- How many bytes a text takes. -/
def byteSize (text : List Char) : Nat :=
  (String.ofList text).utf8ByteSize

/-- What stands in front of a place and behind it, if the text can be cut there. -/
def cut? : Nat → List Char → Option (List Char × List Char)
  | 0, text => some ([], text)
  | _ + 1, [] => none
  | place, c :: rest =>
      if c.utf8Size ≤ place then
        (cut? (place - c.utf8Size) rest).map fun parts => (c :: parts.1, parts.2)
      else none

/-- The places that a part of a text lies between. -/
structure ByteRange where
  start : Nat
  stop : Nat
  deriving Repr, DecidableEq

/-- The part of a text in a range, if the text can be cut at both ends and they are in order. -/
def slice? (range : ByteRange) (text : List Char) : Option (List Char) :=
  (cut? range.stop text).bind fun parts => (cut? range.start parts.1).map (·.2)

/-- The place of the first character that satisfies `p`. -/
def place? (p : Char → Bool) : List Char → Option Nat
  | [] => none
  | c :: rest => if p c then some 0 else (place? p rest).map (c.utf8Size + ·)

end Phrasebook.Text
