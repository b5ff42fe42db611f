/-! # Binary floating-point numbers

Numbers `mantissa * 2 ^ exponent` of a fixed precision, and rounding of an exact ratio to the
nearest of them, half to the even mantissa. All arithmetic is on natural numbers: a product or a
quotient is formed exactly and rounded once.
-/

namespace Phrasebook.Number

/-- A binary format: the bits of a mantissa and the range of the exponent of its last bit. -/
structure Format where
  precision : Nat
  minExponent : Int
  maxExponent : Int
  deriving Repr, DecidableEq

def single : Format := ⟨24, -149, 104⟩

def double : Format := ⟨53, -1074, 971⟩

/-- A number that is not negative, `mantissa * 2 ^ exponent`. -/
structure Binary where
  mantissa : Nat
  exponent : Int
  deriving Repr, DecidableEq, Inhabited

/-- The quotient rounded to the nearest natural number, a half to the even one. -/
def roundDiv (num den : Nat) : Nat :=
  let q := num / den
  let twice := 2 * (num % den)
  if twice < den then q
  else if den < twice then q + 1
  else if q % 2 = 0 then q else q + 1

namespace Binary

/-- The value as an exact ratio of natural numbers. -/
def ratio (x : Binary) : Nat × Nat :=
  (x.mantissa * Nat.pow 2 x.exponent.toNat, Nat.pow 2 (-x.exponent).toNat)

/-- `num / den` in units of `2 ^ exponent`, as a ratio. -/
def scaled (num den : Nat) (exponent : Int) : Nat × Nat :=
  (num * Nat.pow 2 (-exponent).toNat, den * Nat.pow 2 exponent.toNat)

/-- The exponent at which `num / den` has a full mantissa, or the least one of the format. -/
def exponentFor (format : Format) (num den : Nat) : Int :=
  let guess : Int := (num.log2 : Int) - den.log2 - format.precision
  let (n, d) := scaled num den guess
  let fitted := if n / d < Nat.pow 2 format.precision then guess else guess + 1
  max format.minExponent fitted

/-- The number of a format nearest to `num / den`, or `none` when it lies beyond the format. -/
def ofRatio? (format : Format) (num den : Nat) : Option Binary :=
  if num = 0 then some ⟨0, format.minExponent⟩
  else
    let exponent := exponentFor format num den
    let (n, d) := scaled num den exponent
    let mantissa := roundDiv n d
    let rounded : Binary :=
      if mantissa = Nat.pow 2 format.precision then ⟨Nat.pow 2 (format.precision - 1), exponent + 1⟩
      else ⟨mantissa, exponent⟩
    if rounded.exponent ≤ format.maxExponent then some rounded else none

/-- The number of a format nearest to a ratio that is known to lie within it. -/
def ofRatio (format : Format) (num den : Nat) : Binary :=
  (ofRatio? format num den).getD ⟨0, format.minExponent⟩

/-- The product, rounded to a format. -/
def mul? (format : Format) (x y : Binary) : Option Binary :=
  ofRatio? format (x.ratio.1 * y.ratio.1) (x.ratio.2 * y.ratio.2)

/-- The quotient, rounded to a format. -/
def div? (format : Format) (x y : Binary) : Option Binary :=
  ofRatio? format (x.ratio.1 * y.ratio.2) (x.ratio.2 * y.ratio.1)

/-- The difference, rounded to a format; zero when it would be negative. -/
def sub (format : Format) (x y : Binary) : Binary :=
  ofRatio format (x.ratio.1 * y.ratio.2 - y.ratio.1 * x.ratio.2) (x.ratio.2 * y.ratio.2)

/-- The same value in another format. -/
def convert (format : Format) (x : Binary) : Binary :=
  ofRatio format x.ratio.1 x.ratio.2

end Binary
end Phrasebook.Number
