/-!
# Binary floating point numbers

The magnitudes of double precision: `mantissa · 2 ^ exponent` with a mantissa of at most 53 bits and
an exponent of at least -1074. `nearest` rounds a fraction of natural numbers to the nearest
magnitude, to the even mantissa between two equally near ones. All arithmetic is exact before the
rounding.
-/

namespace RecordMapper

/-- A magnitude of double precision. The mantissa has 53 bits unless the exponent is the least one.
-/
structure Binary64 where
  mantissa : Nat
  exponent : Int
  deriving DecidableEq, Repr

namespace Binary64

/-- The least exponent, which the smallest numbers have. -/
def minExponent : Int := -1074

/-- The greatest exponent. -/
def maxExponent : Int := 971

/-- The least mantissa that uses all its bits. -/
def fullMantissa : Nat := 0x10000000000000

/-- The number zero. -/
def zero : Binary64 :=
  ⟨0, minExponent⟩

/-- The quotient rounded to the nearest natural number, to the even one between two. -/
def roundedDiv (num den : Nat) : Nat :=
  let quotient := num / den
  let twice := 2 * (num % den)
  if twice < den then quotient
  else if den < twice then quotient + 1
  else quotient + quotient % 2

/-- The fraction `num / den` times `2 ^ shift`, as a numerator and a denominator. -/
def shifted (num den : Nat) (shift : Int) : Nat × Nat :=
  if 0 ≤ shift then (num * Nat.pow 2 shift.toNat, den)
  else (num, den * Nat.pow 2 (-shift).toNat)

/-- The exponent at which the fraction has a mantissa of 53 bits, but at least the least one. -/
def exponentOf (num den : Nat) : Int :=
  let guess : Int := (num.log2 : Int) - (den.log2 : Int) - 52
  let (n, d) := shifted num den (-guess)
  max minExponent (if n / d < fullMantissa then guess - 1 else guess)

/-- The magnitude nearest to `num / den`, `none` if it is too large for any. -/
def nearest (num den : Nat) : Option Binary64 :=
  if num = 0 then some zero
  else
    let exponent := exponentOf num den
    let (n, d) := shifted num den (-exponent)
    let rounded := roundedDiv n d
    let result : Binary64 :=
      if rounded = 2 * fullMantissa then ⟨fullMantissa, exponent + 1⟩ else ⟨rounded, exponent⟩
    if maxExponent < result.exponent then none else some result

/-- The number as a fraction of natural numbers. -/
def fraction (x : Binary64) : Nat × Nat :=
  shifted x.mantissa 1 x.exponent

/-- The product, rounded. There is none if it is too great. -/
def mul (x y : Binary64) : Option Binary64 :=
  nearest (x.fraction.1 * y.fraction.1) (x.fraction.2 * y.fraction.2)

/-- The rounded quotient; the divisor must not be zero. -/
def div (x y : Binary64) : Option Binary64 :=
  nearest (x.fraction.1 * y.fraction.2) (x.fraction.2 * y.fraction.1)

end Binary64

end RecordMapper
