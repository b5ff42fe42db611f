import Phrasebook.Number.Binary

/-! # Shortest decimal text

The decimal numeral of a binary number with the fewest digits that still reads back as it. On the
grid of decimals with a given number of digits only the two neighbours of the value have to be
tried; of two that read back the nearer is taken, and a tie goes to the even digit.
-/

namespace Phrasebook.Number

/-- A decimal numeral `digits * 10 ^ exponent`. -/
structure Decimal where
  digits : Nat
  exponent : Int
  deriving Repr, DecidableEq, Inhabited

/-- The ends of the interval of ratios that round to a number, over one denominator, and whether the
    ends belong to it. -/
structure Interval where
  low : Nat
  high : Nat
  den : Nat
  closed : Bool

namespace Interval

/-- The ratios that round to `x` in a format. Below a power of two the neighbours lie twice as
    close. -/
def around (format : Format) (x : Binary) : Interval :=
  let unit := x.exponent - 2
  let up := Nat.pow 2 unit.toNat
  let quarter :=
    if x.mantissa = Nat.pow 2 (format.precision - 1) ∧ format.minExponent < x.exponent then 1 else 2
  { low := (4 * x.mantissa - quarter) * up
    high := (4 * x.mantissa + 2) * up
    den := Nat.pow 2 (-unit).toNat
    closed := x.mantissa % 2 = 0 }

def holds (i : Interval) (num den : Nat) : Bool :=
  let value := num * i.den
  if i.closed then i.low * den ≤ value && value ≤ i.high * den
  else i.low * den < value && value < i.high * den

end Interval

def powerOfTen (exponent : Int) : Nat × Nat :=
  (Nat.pow 10 exponent.toNat, Nat.pow 10 (-exponent).toNat)

/-- The exponent of the leading decimal digit of `num / den`. -/
def leadingExponent (num den : Nat) : Int :=
  let guess : Int := ((num.log2 : Int) - den.log2) * 30103 / 100000
  let reaches (k : Int) : Bool :=
    let (p, q) := powerOfTen k
    p * den ≤ num * q
  if reaches (guess + 1) then guess + 1
  else if reaches guess then guess
  else guess - 1

/-- The decimal of the grid `10 ^ exponent` that reads back as the number with the value `num /
    den`, if one of the value's two neighbours does. -/
def neighbour? (interval : Interval) (num den : Nat) (exponent : Int) : Option Decimal :=
  let (p, q) := powerOfTen exponent
  let n := num * q
  let d := den * p
  let floor := n / d
  let rest := n % d
  let reads (k : Nat) : Bool := interval.holds (k * p) q
  match reads floor, reads (floor + 1) with
  | true, true =>
      let nearer :=
        if 2 * rest < d then floor
        else if d < 2 * rest then floor + 1
        else if floor % 2 = 0 then floor else floor + 1
      some ⟨nearer, exponent⟩
  | true, false => some ⟨floor, exponent⟩
  | false, true => some ⟨floor + 1, exponent⟩
  | false, false => none

/-- Move trailing zeros of the digits into the exponent. -/
def Decimal.stripZeros : Nat → Decimal → Decimal
  | 0, x => x
  | fuel + 1, x =>
      if x.digits % 10 = 0 && x.digits != 0 then stripZeros fuel ⟨x.digits / 10, x.exponent + 1⟩
      else x

/-- The numeral with the fewest digits that reads back as `x`. Seventeen digits always do in the
    formats used here. -/
def Binary.shortest (format : Format) (x : Binary) : Decimal :=
  if x.mantissa = 0 then ⟨0, 0⟩
  else
    let (num, den) := x.ratio
    let lead := leadingExponent num den
    let interval := Interval.around format x
    let found := (List.range 17).findSome? fun (more : Nat) =>
      neighbour? interval num den (lead - (more : Int))
    (found.getD ⟨0, 0⟩).stripZeros 20

/-- How a decimal is laid out: the positions of the point, counted from before the first digit, for
    which it is written without an exponent lie above `lowest` and up to `highest`. -/
structure Layout where
  lowest : Int
  highest : Int

namespace Decimal

def digitChars (n : Nat) : List Char :=
  Nat.toDigits 10 n

/-- An exponent after its mark, always with a sign. -/
def exponentText (e : Int) : List Char :=
  'e' :: (if e < 0 then '-' else '+') :: digitChars e.natAbs

/-- The text of a decimal. A whole number keeps one zero after the point; an exponent stands after
    the first digit and the rest, if any, as its fraction. -/
def text (layout : Layout) (x : Decimal) : List Char :=
  let ds := digitChars x.digits
  let point : Int := (ds.length : Int) + x.exponent
  if 0 ≤ x.exponent && point ≤ layout.highest then
    ds ++ List.replicate x.exponent.toNat '0' ++ ['.', '0']
  else if 0 < point && point ≤ layout.highest then
    ds.take point.toNat ++ '.' :: ds.drop point.toNat
  else if layout.lowest < point && point ≤ 0 then
    ['0', '.'] ++ List.replicate (-point).toNat '0' ++ ds
  else
    let fraction := match ds.tail with
      | [] => []
      | rest => '.' :: rest
    ds.take 1 ++ fraction ++ exponentText (point - 1)

end Decimal
end Phrasebook.Number
