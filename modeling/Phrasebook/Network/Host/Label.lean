import Phrasebook.Network.Host.Direction
import Phrasebook.Network.Host.Joining
import Phrasebook.Network.Host.Mapping
import Phrasebook.Network.Host.Punycode

/-! # Labels

The parts of a host name between dots. A label has a form for people, in any script, and a form for
computers, in ASCII, which is Punycode behind a fixed start if the label is not ASCII itself. Both
forms are read, and a label that was given in the second has to be one that the first leads to.
-/

namespace Phrasebook.Network.Host

/-- A label of a name in both its forms. -/
structure Label where
  shown : List Char
  written : List Char
  deriving Repr, DecidableEq

namespace Label

/-- What the written form of a label starts with if the label is not ASCII. -/
def sign : List Char := "xn--".toList

/-- The most characters of a label that is not ASCII. -/
def shownLimit : Nat := 1000

/-- The most characters behind the sign of a written form. -/
def writtenLimit : Nat := 2000

/-- Whether a label may be shown so: it does not start with a mark, and its joiners fit. -/
def mayShow (label : List Char) : Bool :=
  !label.head?.any isMark && joinersFit [] label

/-- The label with a written form, given without the sign. It must be shown in characters that names
    keep as they are. -/
def ofWritten? (text : List Char) : Option Label := do
  if !text.all Punycode.isBasic ∨ writtenLimit < text.length then none
  else
    let shown ← Punycode.decode? text
    if shown.all Punycode.isBasic then none
    else if mapped? shown = some shown ∧ mayShow shown then some ⟨shown, sign ++ text⟩
    else none

/-- The label that stands in a name, whose characters were mapped. -/
def ofMapped? (text : List Char) : Option Label :=
  if sign.isPrefixOf text then ofWritten? (text.drop sign.length)
  else if text.all Punycode.isBasic then some ⟨text, text⟩
  else if mayShow text ∧ text.length ≤ shownLimit then
    some ⟨text, sign ++ Punycode.encode text⟩
  else none

end Label

/-- The characters that no host has. -/
def isForbidden (c : Char) : Bool :=
  c.toNat ≤ 0x20 || c.toNat == 0x7F || "#/:<>?@[\\]^|%".toList.contains c

/-- The labels of a name. -/
def labels? (name : List Char) : Option (List Label) := do
  let kept ← mapped? name
  if kept.any isForbidden then none
  else
    let labels ← (kept.splitOn '.').mapM Label.ofMapped?
    if Direction.areLevel (labels.map Label.shown) then some labels else none

end Phrasebook.Network.Host
