/-! # Runs of shifted characters

Tables that send characters to characters mostly move whole alphabets by one distance. Such an
alphabet is kept as a run.
-/

namespace Phrasebook.Text

/-- Evenly spaced characters that are all moved by one distance: `first`, `first + stride`, … up to
    `last`, the first of which is moved to `target`. -/
structure ShiftRun where
  first : Nat
  last : Nat
  stride : Nat
  target : Nat
  deriving Repr, DecidableEq

namespace ShiftRun

def covers (run : ShiftRun) (code : Nat) : Bool :=
  decide (run.first ≤ code) && decide (code ≤ run.last) && (code - run.first) % run.stride == 0

def move (run : ShiftRun) (code : Nat) : Nat :=
  run.target + (code - run.first)

/-- Where a code point is moved to by runs that are sorted by first character. -/
def find? : List ShiftRun → Nat → Option Nat
  | [], _ => none
  | run :: rest, code =>
      if code < run.first then none
      else if run.covers code then some (run.move code)
      else find? rest code

end ShiftRun
end Phrasebook.Text
