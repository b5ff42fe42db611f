/-! # Numbers in digits

Reading a number in any base up to sixteen.
-/

namespace Phrasebook.Text

/-- The value of a digit, in any case; letters follow nine. -/
def digitValue? (c : Char) : Option Nat :=
  if c.isDigit then some (c.toNat - '0'.toNat)
  else if 'a' ≤ c ∧ c ≤ 'f' then some (c.toNat - 'a'.toNat + 10)
  else if 'A' ≤ c ∧ c ≤ 'F' then some (c.toNat - 'A'.toNat + 10)
  else none

/-- The number that a text of digits writes; nothing at all writes zero. -/
def digits? (base : Nat) (text : List Char) : Option Nat :=
  text.foldl
    (fun read c => do
      let value ← digitValue? c
      if value < base then some ((← read) * base + value) else none)
    (some 0)

end Phrasebook.Text
