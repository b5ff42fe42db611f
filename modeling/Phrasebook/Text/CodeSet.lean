/-! # Sets of characters

A Unicode property is kept as the sorted list of the code points at which membership turns on or
off. A character belongs when an odd number of turns lie at or below it, so a table costs two
numbers for every unbroken run of characters.
-/

namespace Phrasebook.Text

/-- A set of code points, given by the points where membership turns on and off, in order. -/
structure CodeSet where
  turns : List Nat
  deriving Repr, DecidableEq

namespace CodeSet

/-- Membership in the set with the given turns. The search stops at the first run that starts
    beyond the code point. -/
def holds : List Nat → Nat → Bool
  | [], _ => false
  | [start], code => decide (start ≤ code)
  | start :: stop :: rest, code =>
      if code < start then false
      else if code < stop then true
      else holds rest code

def contains (set : CodeSet) (c : Char) : Bool :=
  holds set.turns c.toNat

end CodeSet
end Phrasebook.Text
