import Phrasebook.Network.Host.Joining.Table
import Phrasebook.Network.Host.Mark
import Phrasebook.Text.Composition

/-! # Joiners

Two invisible characters tie letters together or keep them apart. A label may hold them only where
they make a difference that can be seen, as RFC 5892 has it: behind a mark that takes the vowel off
a consonant, and, for the one that keeps apart, between letters that would be tied otherwise.
-/

namespace Phrasebook.Network.Host

/-- The character that keeps letters apart. -/
def nonJoiner : Char := '\u200C'

/-- The character that ties letters together. -/
def joiner : Char := '\u200D'

/-- The combining class of marks that take the vowel off a consonant. -/
def vowelKiller : Nat := 9

/-- Whether a character is passed over when neighbours are looked for. -/
def isTransparent (c : Char) : Bool :=
  nonspacing.contains c || c == Char.ofNat 0x1E94B

/-- Whether the first character that is not passed over is in a set. -/
def meets (set : Text.CodeSet) (text : List Char) : Bool :=
  match text.dropWhile isTransparent with
  | c :: _ => set.contains c
  | [] => false

/-- Whether a joiner may stand between `before`, nearest first, and `after`. -/
def mayJoin (c : Char) (before after : List Char) : Bool :=
  match before with
  | [] => false
  | previous :: _ =>
      Text.combiningClass previous.toNat == vowelKiller ||
        c == nonJoiner && meets joinsNext before && meets joinsPrevious after

/-- Whether the joiners in a label stand where they may; `before` is what was read, nearest
    first. -/
def joinersFit (before : List Char) : List Char → Bool
  | [] => true
  | c :: after =>
      ((c != nonJoiner && c != joiner) || mayJoin c before after) && joinersFit (c :: before) after

end Phrasebook.Network.Host
