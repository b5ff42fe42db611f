/-! # Punycode

Labels of host names in ASCII, as RFC 3492 has them: the ASCII characters of a label, and behind the
last hyphen instructions for inserting the others. The insertions go by rising code point and then
by place, and each is written as the number of places passed since the last one. The numbers have
digits of varying weight that adapts to the numbers before.
-/

namespace Phrasebook.Network.Host.Punycode

/-! ## Numbers -/

def digit (n : Nat) : Char :=
  if n < 26 then Char.ofNat ('a'.toNat + n) else Char.ofNat ('0'.toNat + (n - 26))

def digitValue? (c : Char) : Option Nat :=
  if 'a' ≤ c ∧ c ≤ 'z' then some (c.toNat - 'a'.toNat)
  else if 'A' ≤ c ∧ c ≤ 'Z' then some (c.toNat - 'A'.toNat)
  else if c.isDigit then some (c.toNat - '0'.toNat + 26)
  else none

/-- The least value of a digit at the place `k` that has another behind it. -/
def threshold (bias k : Nat) : Nat :=
  if k ≤ bias then 1 else if bias + 26 ≤ k then 26 else k - bias

theorem threshold_pos (bias k : Nat) : 0 < threshold bias k := by
  simp only [threshold]
  split
  · decide
  · split <;> omega

/-- The bias for numbers behind one that was scaled to `delta`, which is scaled down further as long
    as it is large. -/
def biasOf (k delta : Nat) : Nat :=
  if 455 < delta then biasOf (k + 36) (delta / 35) else k + 36 * delta / (delta + 38)
termination_by delta
decreasing_by omega

/-- The bias behind the number `delta`, given how many characters there are by now. -/
def adapt (delta count : Nat) (first : Bool) : Nat :=
  let scaled := if first then delta / 700 else delta / 2
  biasOf 0 (scaled + scaled / count)

/-- The digits of a number, from the place `k` on. -/
def digits (bias k n : Nat) : List Char :=
  let t := threshold bias k
  if n < t then [digit n]
  else digit (t + (n - t) % (36 - t)) :: digits bias (k + 36) ((n - t) / (36 - t))
termination_by n
decreasing_by
  have positive := threshold_pos bias k
  have := Nat.div_le_self (n - threshold bias k) (36 - threshold bias k)
  omega

/-- Numbers from here on are refused. -/
def limit : Nat := 0x100000000

/-- Read a number from the place `k` on, where digits have the given weight, and add it to `n`. -/
def number? (bias : Nat) : Nat → Nat → Nat → List Char → Option (Nat × List Char)
  | _, _, _, [] => none
  | k, weight, n, c :: rest => do
      let value ← digitValue? c
      let sum := n + value * weight
      let t := threshold bias k
      if limit ≤ sum then none
      else if value < t then some (sum, rest)
      else if limit ≤ weight * (36 - t) then none
      else number? bias (k + 36) (weight * (36 - t)) sum rest

theorem length_of_number? {bias k weight n : Nat} {text rest : List Char} {sum : Nat}
    (read : number? bias k weight n text = some (sum, rest)) : rest.length < text.length := by
  induction text generalizing k weight n with
  | nil => simp [number?] at read
  | cons c text ih =>
    simp only [number?] at read
    cases value : digitValue? c with
    | none => simp [value] at read
    | some v =>
      simp only [value, Option.bind_eq_bind, Option.bind_some] at read
      split at read
      · simp at read
      · split at read
        · simp at read; simp [read.2]
        · split at read
          · simp at read
          · have := ih read; simp only [List.length_cons]; omega

/-! ## Writing -/

/-- How far the writing of insertions has come: the places passed since the last one, the bias, how
    many characters there are by now, and whether nothing was inserted yet. -/
structure Progress where
  delta : Nat
  bias : Nat
  count : Nat
  first : Bool
  output : List Char

/-- Pass a place of the label while the character `next` is inserted and all smaller ones are
    there. -/
def Progress.pass (next : Nat) (progress : Progress) (c : Char) : Progress :=
  if c.toNat < next then { progress with delta := progress.delta + 1 }
  else if c.toNat = next then
    { delta := 0
      bias := adapt progress.delta (progress.count + 1) progress.first
      count := progress.count + 1
      first := false
      output := progress.output ++ digits progress.bias 36 progress.delta }
  else progress

/-- Insert characters in rising order, when all below `reached` are there. -/
def Progress.insertRising (label : List Char) : Nat → List Nat → Progress → Progress
  | _, [], progress => progress
  | reached, next :: rest, progress =>
      let jumped :=
        { progress with delta := progress.delta + (next - reached) * (progress.count + 1) }
      let inserted := label.foldl (Progress.pass next) jumped
      insertRising label (next + 1) rest { inserted with delta := inserted.delta + 1 }

def isBasic (c : Char) : Bool :=
  c.toNat < 0x80

/-- The bias before the first number. -/
def firstBias : Nat := 72

/-- The written form of a label. -/
def encode (label : List Char) : List Char :=
  let basic := label.filter isBasic
  let others := (label.filter (!isBasic ·)).map Char.toNat
  let start : Progress :=
    { delta := 0, bias := firstBias, count := basic.length, first := true
      output := if basic.isEmpty then [] else basic ++ ['-'] }
  (start.insertRising label 0x80 (others.mergeSort (· ≤ ·)).eraseDups).output

/-! ## Reading -/

/-- A character with a code point, if there is one. -/
def char? (code : Nat) : Option Char :=
  if h : code.isValidChar then some (Char.ofNatAux code h) else none

/-- Carry out insertions into a label; the last one was of the character `reached`, just before
    `place`. -/
def insertAll? (bias reached place : Nat) (label text : List Char) : Option (List Char) :=
  match text with
  | [] => some label
  | c :: rest =>
      match _read : number? bias 36 1 place (c :: rest) with
      | none => none
      | some (sum, after) => do
          let count := label.length + 1
          let next := sum % count
          let code := reached + sum / count
          let inserted ← char? code
          insertAll? (adapt (sum - place) count (label.all isBasic)) code (next + 1)
            (label.take next ++ inserted :: label.drop next) after
termination_by text.length
decreasing_by exact length_of_number? _read

/-- The label with a written form. -/
def decode? (text : List Char) : Option (List Char) :=
  let insertions := (text.reverse.takeWhile (· != '-')).reverse
  let basic := text.take (text.length - insertions.length - 1)
  insertAll? firstBias 0x80 0 basic (if basic.isEmpty then text else insertions)

end Phrasebook.Network.Host.Punycode
