import Phrasebook.Text.CodeSet

/-! # Blank characters and trimming

Two notions of blank are in use. White space is the Unicode property. Space, as lines of a script
see it, is white space or a byte order mark, because pasted text often starts with one.
-/

namespace Phrasebook.Text

/-- The characters with the Unicode property White_Space. -/
def whiteSpace : CodeSet where
  turns := [0x09, 0x0E, 0x20, 0x21, 0x85, 0x86, 0xA0, 0xA1, 0x1680, 0x1681, 0x2000, 0x200B,
    0x2028, 0x202A, 0x202F, 0x2030, 0x205F, 0x2060, 0x3000, 0x3001]

/-- White space, as the Unicode property has it. -/
def isWhite (c : Char) : Bool :=
  whiteSpace.contains c

/-- The character U+FEFF: a byte order mark when it opens a text. -/
def byteOrderMark : Char := '\uFEFF'

/-- Space between the parts of a line: white space or a byte order mark. -/
def isSpace (c : Char) : Bool :=
  isWhite c || c == byteOrderMark

/-- Drop the longest run of characters satisfying `p` at the end. -/
def trimEnd (p : Char → Bool) (text : List Char) : List Char :=
  (text.reverse.dropWhile p).reverse

/-- The longest run of characters satisfying `p` at the end. -/
def endRun (p : Char → Bool) (text : List Char) : List Char :=
  (text.reverse.takeWhile p).reverse

/-- Drop the characters satisfying `p` at both ends. -/
def trimBoth (p : Char → Bool) (text : List Char) : List Char :=
  trimEnd p (text.dropWhile p)

@[simp]
theorem trimEnd_append_endRun (p : Char → Bool) (text : List Char) :
    trimEnd p text ++ endRun p text = text := by
  rw [trimEnd, endRun, ← List.reverse_append, List.takeWhile_append_dropWhile, List.reverse_reverse]

/-- A text without white space at its ends. -/
def trimWhite (text : String) : String :=
  String.ofList (trimBoth isWhite text.toList)

def isBlank (text : String) : Bool :=
  text.toList.all isWhite

end Phrasebook.Text
