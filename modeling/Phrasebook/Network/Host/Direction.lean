import Phrasebook.Network.Host.Direction.Table
import Phrasebook.Network.Host.Mark

/-! # Direction of labels

A name with letters that are written from right to left can be shown in an order that misleads. Its
labels have to keep to one direction each, as RFC 5893 has it: a label starts with a letter, ends in
a letter or a number, and holds no letter of the other direction.
-/

namespace Phrasebook.Network.Host

/-- How a character takes part in the direction of a text. -/
inductive Direction where
  | leftToRight
  | rightToLeft
  | arabicDigit
  | europeanDigit
  | nonspacing
  | neutral
  deriving Repr, DecidableEq

namespace Direction

def ofChar (c : Char) : Direction :=
  if Host.rightToLeft.contains c then .rightToLeft
  else if arabicDigits.contains c then .arabicDigit
  else if europeanDigits.contains c then .europeanDigit
  else if directionless.contains c then .neutral
  else if Host.nonspacing.contains c && !strongMarks.contains c then .nonspacing
  else .leftToRight

/-- Whether a character is out of place in a label that starts so. -/
def isStray (start direction : Direction) : Bool :=
  match start with
  | .leftToRight => direction == .rightToLeft || direction == .arabicDigit
  | _ => direction == .leftToRight

/-- Whether a label that starts so may end so. -/
def mayEnd (start last : Direction) : Bool :=
  match start with
  | .leftToRight => last == .leftToRight || last == .europeanDigit
  | _ => last == .rightToLeft || last == .arabicDigit || last == .europeanDigit

/-- Whether the characters of a label keep to one direction. Marks at the end do not count. -/
def isLevel : List Direction → Bool
  | [] => true
  | start :: rest =>
      let label := start :: rest
      let last := (label.reverse.dropWhile (· == .nonspacing)).head?.getD start
      (start == .leftToRight || start == .rightToLeft) &&
        mayEnd start last &&
        !label.any (isStray start) &&
        (start == .leftToRight || !(label.contains .arabicDigit && label.contains .europeanDigit))

/-- Whether a character makes direction matter for the name it is in. -/
def turns (direction : Direction) : Bool :=
  direction == .rightToLeft || direction == .arabicDigit

/-- Whether all labels of a name keep to one direction each, or none is written from the right. -/
def areLevel (labels : List (List Char)) : Bool :=
  let labels := labels.map (·.map ofChar)
  !labels.any (·.any turns) || labels.all isLevel

end Direction
end Phrasebook.Network.Host
