import RecordMapper.Number.Binary64

/-!
# Shortest decimals

The decimal text of a floating point number: the fewest digits that round back to it, and of those
the nearest to it. `shortest` finds the digits, `text` writes them.
-/

namespace RecordMapper

/-- The decimal `digits · 10 ^ exponent`. -/
structure Decimal where
  digits : Nat
  exponent : Int
  deriving DecidableEq, Repr

namespace Binary64

/-- The ends of the interval of numbers that round to a positive magnitude, as multiples of
`2 ^ (exponent - 2)`. Below a power of two the neighbour is only half as far away. -/
def roundingInterval (x : Binary64) : Nat × Nat :=
  let lower :=
    if x.mantissa = fullMantissa && x.exponent ≠ minExponent then 4 * x.mantissa - 1
    else 4 * x.mantissa - 2
  (lower, 4 * x.mantissa + 2)

/-- Whether a decimal rounds to the positive magnitude `x`. The ends of the interval count if the
mantissa is even. -/
def isNearestTo (x : Binary64) (decimal : Decimal) : Bool :=
  let (lower, upper) := x.roundingInterval
  let (num, den) :=
    if 0 ≤ decimal.exponent then (decimal.digits * Nat.pow 10 decimal.exponent.toNat, 1)
    else (decimal.digits, Nat.pow 10 (-decimal.exponent).toNat)
  let (num, den) := shifted num den (2 - x.exponent)
  if x.mantissa % 2 = 0 then lower * den ≤ num && num ≤ upper * den
  else lower * den < num && num < upper * den

/-- The number divided by a power of ten, as a fraction. -/
def scaled (x : Binary64) (scale : Int) : Nat × Nat :=
  let (num, den) := x.fraction
  if 0 ≤ scale then (num, den * Nat.pow 10 scale.toNat)
  else (num * Nat.pow 10 (-scale).toNat, den)

/-- The greatest power of ten that is not above the positive magnitude. -/
def magnitude (x : Binary64) : Int :=
  let (num, den) := x.fraction
  let guess : Int := ((num.log2 : Int) - (den.log2 : Int)) * 30103 / 100000
  let atLeast (scale : Int) : Bool :=
    let (n, d) := x.scaled scale
    d ≤ n
  if atLeast (guess + 1) then guess + 1
  else if atLeast guess then guess
  else guess - 1

/-- The decimal with digits at `10 ^ scale` that rounds to `x` and is nearest to it. Between two
equally near ones it has the even last digit. -/
def decimalAt? (x : Binary64) (scale : Int) : Option Decimal :=
  let (num, den) := x.scaled scale
  let below : Decimal := ⟨num / den, scale⟩
  let above : Decimal := ⟨num / den + 1, scale⟩
  let twice := 2 * (num % den)
  let preferAbove := den < twice || (twice = den && below.digits % 2 = 1)
  match x.isNearestTo below, x.isNearestTo above with
  | true, true => some (if preferAbove then above else below)
  | true, false => some below
  | false, true => some above
  | false, false => none

/-- The shortest decimal of a positive magnitude. Seventeen digits are always enough. -/
def shortest (x : Binary64) : Decimal :=
  let top := x.magnitude
  ((List.range 17).findSome? fun (after : Nat) => x.decimalAt? (top - after)).getD ⟨0, 0⟩

end Binary64

namespace Decimal

/-- The digits without zeros at the end. The list is never empty. -/
def digitChars (decimal : Decimal) : List Char :=
  match ((Nat.toDigits 10 decimal.digits).reverse.dropWhile (· = '0')).reverse with
  | [] => ['0']
  | chars => chars

/-- The power of ten that the first digit stands for. -/
def leadingPower (decimal : Decimal) : Int :=
  decimal.exponent + ((Nat.toDigits 10 decimal.digits).length : Int) - 1

/-- Digits with a point after the first `places` of them, with zeros where digits are missing. At
least one digit stands after the point. -/
def pointAfter (places : Nat) (digits : List Char) : List Char :=
  let whole := digits.take places ++ List.replicate (places - digits.length) '0'
  let rest := digits.drop places
  whole ++ '.' :: (if rest.isEmpty then ['0'] else rest)

/-- The text of a decimal. From `10 ^ 16` on, and below `10 ^ -5`, it has an exponent with a sign;
otherwise it has a point. -/
def text (decimal : Decimal) : String :=
  let digits := decimal.digitChars
  let power := decimal.leadingPower
  if 16 ≤ power || power < -5 then
    let fractional :=
      match digits with
      | first :: rest@(_ :: _) => first :: '.' :: rest
      | short => short
    String.ofList (fractional ++ 'e' :: (if power < 0 then '-' else '+')
      :: Nat.toDigits 10 power.natAbs)
  else if power < 0 then
    String.ofList ('0' :: '.' :: List.replicate (power.natAbs - 1) '0' ++ digits)
  else String.ofList (pointAfter (power.toNat + 1) digits)

end Decimal

/-- The shortest text that is read as the number. -/
def Binary64.text (x : Binary64) : String :=
  if x.mantissa = 0 then "0.0" else x.shortest.text

end RecordMapper
