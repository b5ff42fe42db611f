import Phrasebook.Encoding.Iso2022Jp.Table

/-! # Japanese in seven bits

Text in ISO-2022-JP changes between four alphabets by sequences that open with an escape byte. Two
changes with nothing between them are malformed, because text could be hidden that way.
-/

namespace Phrasebook.Encoding.Iso2022Jp

/-- An alphabet that bytes are read in. -/
inductive Alphabet where
  | ascii
  /-- ASCII with a yen sign and an overline. -/
  | roman
  | katakana
  /-- The large character set, with two bytes for a character. -/
  | kanji
  deriving Repr, DecidableEq

/-- The byte that opens a change of alphabet. -/
def escape : UInt8 := 0x1B

/-- The alphabet that the two bytes behind an escape change to. -/
def alphabet? (first second : UInt8) : Option Alphabet :=
  if first = 0x28 ∧ second = 0x42 then some .ascii
  else if first = 0x28 ∧ second = 0x4A then some .roman
  else if first = 0x28 ∧ second = 0x49 then some .katakana
  else if first = 0x24 ∧ (second = 0x40 ∨ second = 0x42) then some .kanji
  else none

/-- Whether a byte can be one of the two that stand for a character. -/
def isHalf (byte : UInt8) : Bool :=
  0x21 ≤ byte && byte ≤ 0x7E

/-- The character of two bytes. -/
def ofHalves? (first second : UInt8) : Option Char :=
  ((rows[first.toNat - 0x21]?).bind fun row => row.toList[second.toNat - 0x21]?).filter
    (· != '\uFFFD')

/-- The character of a byte in an alphabet of single bytes. The bytes that shift between alphabets
    in related encodings are not read. -/
def Alphabet.char? (alphabet : Alphabet) (byte : UInt8) : Option Char :=
  match alphabet with
  | .kanji => none
  | .katakana =>
      if 0x21 ≤ byte ∧ byte ≤ 0x5F then some (Char.ofNat (0xFF61 + (byte.toNat - 0x21))) else none
  | _ =>
      if 0x80 ≤ byte ∨ byte = 0x0E ∨ byte = 0x0F ∨ byte = escape then none
      else if alphabet = .roman ∧ byte = 0x5C then some '¥'
      else if alphabet = .roman ∧ byte = 0x7E then some '‾'
      else some (Char.ofNat byte.toNat)

/-- The characters of bytes in an alphabet; `none` marks what is malformed. `changed` tells that
    nothing was read since the alphabet was changed. -/
def readFrom (alphabet : Alphabet) (changed : Bool) : List UInt8 → List (Option Char)
  | [] => []
  | byte :: rest =>
      if byte = escape then
        match rest with
        | [] => [none]
        | [other] => none :: readFrom alphabet false [other]
        | first :: second :: after =>
            match alphabet? first second with
            | some next => (if changed then [none] else []) ++ readFrom next true after
            | none => none :: readFrom alphabet false (first :: second :: after)
      else if alphabet = .kanji ∧ isHalf byte then
        match rest with
        | [] => [none]
        | other :: after =>
            if other = escape then none :: readFrom alphabet false (other :: after)
            else
              let char := if isHalf other then ofHalves? byte other else none
              char :: readFrom alphabet false after
      else alphabet.char? byte :: readFrom alphabet false rest

/-- The characters of bytes; `none` marks what is malformed. -/
def read (bytes : List UInt8) : List (Option Char) :=
  readFrom .ascii false bytes

/-- Whether bytes are text that changes between alphabets without a mistake. What stands before the
    first change is ASCII, and only the last byte of it is looked at. -/
def fits (bytes : List UInt8) : Bool :=
  let before := bytes.takeWhile (· != escape)
  bytes.all (· < 0x80) && bytes.contains escape &&
    (read (bytes.drop (before.length - 1))).all Option.isSome

end Phrasebook.Encoding.Iso2022Jp
