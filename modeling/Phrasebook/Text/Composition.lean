import Phrasebook.Text.Composition.Table

/-! # Composed form

The same letter with marks can be written in several ways. In the composed form every letter is one
with the marks that it can be one with, and the other marks follow it ordered by their class. To
reach it, a text is taken apart, its marks are ordered, and it is put together again.
-/

namespace Phrasebook.Text

/-! ## Pairs -/

/-- The first syllable of Hangul. A syllable is a leading consonant, a vowel, and a trailing
    consonant or none, and syllables are in the order of these parts. -/
def firstSyllable : Nat := 0xAC00

def leadingCount : Nat := 19

def vowelCount : Nat := 21

/-- How many ways there are to end a syllable, counting that without a trailing consonant. -/
def trailingCount : Nat := 28

/-- The character before the first trailing consonant. -/
def noTrailing : Nat := 0x11A7

def isSyllable (code : Nat) : Bool :=
  firstSyllable ≤ code && code < firstSyllable + leadingCount * vowelCount * trailingCount

/-- The pair that a syllable of Hangul stands for. -/
def syllablePair (code : Nat) : Nat × Nat :=
  let place := code - firstSyllable
  let trailing := place % trailingCount
  if trailing = 0 then
    (0x1100 + place / trailingCount / vowelCount, 0x1161 + place / trailingCount % vowelCount)
  else (code - trailing, noTrailing + trailing)

/-- The syllable of Hangul that stands for a pair. -/
def syllable? (first second : Nat) : Option Nat :=
  let leading := first - 0x1100
  let vowel := second - 0x1161
  if 0x1100 ≤ first ∧ leading < leadingCount ∧ 0x1161 ≤ second ∧ vowel < vowelCount then
    some (firstSyllable + (leading * vowelCount + vowel) * trailingCount)
  else if isSyllable first ∧ (first - firstSyllable) % trailingCount = 0 ∧ noTrailing < second ∧
      second - noTrailing < trailingCount then
    some (first + (second - noTrailing))
  else none

/-- The pair that a character stands for. -/
def pair? (code : Nat) : Option (Nat × Nat) :=
  if isSyllable code then some (syllablePair code)
  else
    match pairs.find? code with
    | some [first, second] => some (first, second)
    | _ => none

/-- The character that stands for a pair. -/
def ofPair? (first second : Nat) : Option Nat :=
  (syllable? first second).orElse fun _ => pairs.findKey? [first, second]

/-! ## Order of marks -/

/-- The combining class of a character: zero for all but marks that may change places. -/
def combiningClass (code : Nat) : Nat :=
  ((combiningClasses.find? fun row => CodeSet.holds row.2.turns code).map Prod.fst).getD 0

/-- A character with its combining class. -/
structure Classed where
  code : Nat
  combining : Nat
  deriving Repr, DecidableEq

/-- A character with the class that it has. -/
def Classed.ofCode (code : Nat) : Classed :=
  ⟨code, combiningClass code⟩

/-- A character put before others that are in order: behind all marks of a lower class. -/
def place (given : Classed) : List Classed → List Classed
  | [] => [given]
  | next :: rest =>
      if 0 < next.combining ∧ next.combining < given.combining then next :: place given rest
      else given :: next :: rest

/-- Characters with the marks behind every letter in the order of their classes. -/
def inOrder (text : List Classed) : List Classed :=
  text.foldr place []

/-! ## The composed form -/

/-- The most pairs that lie within each other in one character. -/
def deepestPair : Nat := 3

/-- A character taken apart. Only the first of a pair can be taken apart further. -/
def parts : Nat → Nat → List Nat
  | 0, code => [code]
  | steps + 1, code =>
      match pair? code with
      | some (first, second) => parts steps first ++ [second]
      | none => [code]

/-- Put together what follows a letter; `passed` are the marks behind it that stay, the last one
    first. A mark meets the letter if none of its class or a higher one stands between, and another
    letter only if nothing does. -/
def composeFrom (letter : Nat) (passed : List Classed) : List Classed → List Nat
  | [] => letter :: passed.reverse.map Classed.code
  | next :: rest =>
      let meets := passed.head?.all fun last => last.combining < next.combining
      match if meets then ofPair? letter next.code else none with
      | some whole => composeFrom whole passed rest
      | none =>
          if next.combining = 0 then
            letter :: passed.reverse.map Classed.code ++ composeFrom next.code [] rest
          else composeFrom letter (next :: passed) rest

/-- Put a text together whose marks are in order. Marks without a letter stay as they are. -/
def composeOrdered (text : List Classed) : List Nat :=
  let loose := text.takeWhile (0 < ·.combining)
  loose.map Classed.code ++
    match text.drop loose.length with
    | [] => []
    | letter :: rest => composeFrom letter.code [] rest

def composed (text : List Char) : List Char :=
  let apart := text.flatMap fun c => parts deepestPair c.toNat
  (composeOrdered (inOrder (apart.map Classed.ofCode))).map Char.ofNat

end Phrasebook.Text
