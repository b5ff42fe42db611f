import Phrasebook.Network.Host.Mapping.Table
import Phrasebook.Text.Composition

/-! # Mapping of host names

Before anything else a name is rid of differences that do not count: of case and width, of invisible
characters, and of the ways to write a letter with marks. A few characters must not stand in a name
at all.
-/

namespace Phrasebook.Network.Host

/-- What a character of a name is replaced by, unless it is refused. -/
def mapChar? (c : Char) : Option (List Char) :=
  if ignored.contains c then some []
  else
    match Text.ShiftRun.find? shifted c.toNat with
    | some code => some [Char.ofNat code]
    | none =>
        match replaced.find? c.toNat with
        | some codes => some (codes.map Char.ofNat)
        | none => if refused.contains c then none else some [c]

/-- A name as it counts, unless a character of it is refused. -/
def mapped? (name : List Char) : Option (List Char) := do
  some (Text.composed (← name.mapM mapChar?).flatten)

end Phrasebook.Network.Host
