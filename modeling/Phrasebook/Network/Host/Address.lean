import Phrasebook.Text.Digits

/-! # Numeric addresses

Hosts that are given by number: four bytes with dots between them, which may be abbreviated and
written in several bases, or eight pieces of sixteen bits between brackets.
-/

namespace Phrasebook.Network.Host

open Text (digits?)

/-! ## Four bytes -/

/-- A part of a numeric address: decimal, octal behind a zero, or hexadecimal behind `0x`. -/
def addressPart? : List Char → Option Nat
  | [] => none
  | '0' :: 'x' :: rest => digits? 16 rest
  | '0' :: rest => digits? 8 rest
  | text => digits? 10 text

/-- Whether a label makes its host a numeric address. -/
def isNumeric (label : List Char) : Bool :=
  let isHexadecimal := label.take 2 == "0x".toList && (addressPart? label).isSome
  label != [] && (label.all Char.isDigit || isHexadecimal)

/-- The number of an address: each part but the last fills one byte, and the last fills the rest. -/
def address? (parts : List Nat) : Option Nat :=
  match parts.reverse with
  | [] => none
  | last :: before =>
      let bytes := before.reverse
      let room := Nat.pow 256 (4 - bytes.length)
      if 3 < bytes.length ∨ bytes.any (255 < ·) ∨ room ≤ last then none
      else some (bytes.foldl (fun n byte => n * 256 + byte) 0 * room + last)

def dotted (address : Nat) : String :=
  ".".intercalate
    ([3, 2, 1, 0].map fun (place : Nat) => toString (address / Nat.pow 256 place % 256))

/-! ## Eight pieces -/

/-- A piece of an address, in hexadecimal. -/
def piece? (text : List Char) : Option Nat :=
  if text = [] ∨ 4 < text.length then none else digits? 16 text

/-- A byte in decimal, without zeros before it. -/
def byte? (text : List Char) : Option Nat :=
  if text = [] ∨ (text.head? = some '0' ∧ text ≠ ['0']) then none
  else (digits? 10 text).filter (· ≤ 255)

/-- The two pieces that four bytes between dots make. -/
def dottedPieces? (text : List Char) : Option (List Nat) := do
  match ← (text.splitOn '.').mapM byte? with
  | [a, b, c, d] => some [a * 256 + b, c * 256 + d]
  | _ => none

/-- Pieces between colons. The last one may be four bytes instead if the address ends there. -/
def pieces? (isEnd : Bool) (text : List Char) : Option (List Nat) :=
  if text = [] then some []
  else do
    let parts := text.splitOn ':'
    let last := parts.getLastD []
    let before ← parts.dropLast.mapM piece?
    let final ← if isEnd && last.contains '.' then dottedPieces? last
      else (piece? last).map fun piece => [piece]
    some (before ++ final)

/-- A text before and after the first double colon, if it has one. -/
def splitGap : List Char → List Char × Option (List Char)
  | ':' :: ':' :: rest => ([], some rest)
  | c :: rest =>
      let (before, after) := splitGap rest
      (c :: before, after)
  | [] => ([], none)

/-- The pieces of an address; a double colon stands for as many zeros as are missing. -/
def ofBrackets? (text : List Char) : Option (List Nat) :=
  match splitGap text with
  | (whole, none) => (pieces? true whole).filter (·.length = 8)
  | (start, some rest) => do
      let before ← pieces? false start
      let after ← pieces? true rest
      if 7 < before.length + after.length then none
      else some (before ++ List.replicate (8 - before.length - after.length) 0 ++ after)

/-- How many zeros pieces start with. -/
def zeros (pieces : List Nat) : Nat :=
  (pieces.takeWhile (· == 0)).length

/-- The length of the longest run of zeros in pieces. -/
def longestZeros : List Nat → Nat
  | [] => 0
  | piece :: rest => max (zeros (piece :: rest)) (longestZeros rest)

def colonText (pieces : List Nat) : String :=
  ":".intercalate (pieces.map fun piece => String.ofList (Nat.toDigits 16 piece))

/-- Pieces in their shortest form: a double colon stands for the first of the longest runs of at
    least two zeros. -/
def bracketed (pieces : List Nat) : String :=
  let run := longestZeros pieces
  let text :=
    if run < 2 then colonText pieces
    else
      match (List.range pieces.length).find? fun place => zeros (pieces.drop place) == run with
      | some place =>
          colonText (pieces.take place) ++ "::" ++ colonText (pieces.drop (place + run))
      | none => colonText pieces
  "[" ++ text ++ "]"

end Phrasebook.Network.Host
