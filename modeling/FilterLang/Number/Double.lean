import FilterLang.Number.Decimal
import FilterLang.Number.Ratio

/-!
# Numbers of double precision

Non-negative numbers with a significand of 53 bits. An operation is the exact operation on fractions followed by
rounding to the nearest number of that precision, a tie going to the even significand.

## The model

The exponent is not bounded. The numbers that arise here come from decimals with a mantissa below 2^96 and at most 28
fraction digits, whose magnitudes lie far inside the range of the double format, so no result of an operation would be
subnormal or infinite in it.
-/

namespace FilterLang.Number

/-- The number `significand * 2 ^ exponent`. The significand of a number other than zero has exactly 53 bits. -/
structure Double where
  /-- The leading 53 bits. -/
  significand : Nat
  /-- The power of two they are multiplied with. -/
  exponent : Int
  deriving DecidableEq, Repr

namespace Double

/-- The number zero. -/
def zero : Double := ⟨0, 0⟩

/-- The number of bits of a significand, less one. -/
def leadingBit : Nat := 52

/-- The exact value. -/
def toRatio (d : Double) : Ratio := (Ratio.ofNat d.significand).scale 2 d.exponent

/-- The exponent that gives a fraction other than zero a significand of 53 bits before rounding. -/
def exponentOf (x : Ratio) : Int :=
  let estimate : Int := (x.num.log2 : Int) - x.den.log2 - leadingBit
  if ((Ratio.ofNat (Nat.pow 2 leadingBit)).scale 2 estimate).le x then estimate else estimate - 1

/-- The nearest number to a fraction. -/
def nearest (x : Ratio) : Double :=
  if x.num = 0 then zero
  else
    let exponent := exponentOf x
    let significand := (x.scale 2 (-exponent)).roundHalfEven
    if significand < Nat.pow 2 (leadingBit + 1) then ⟨significand, exponent⟩
    else ⟨Nat.pow 2 leadingBit, exponent + 1⟩

/-- The nearest number to a natural number. -/
def ofNat (n : Nat) : Double := nearest (Ratio.ofNat n)

/-- The sum, rounded. -/
def add (x y : Double) : Double := nearest (x.toRatio.add y.toRatio)

/-- The product, rounded. -/
def mul (x y : Double) : Double := nearest (x.toRatio.mul y.toRatio)

/-- The quotient, rounded. -/
def div (x y : Double) : Double := nearest (x.toRatio.div y.toRatio)

/-- The nearest whole number; a half goes up. -/
def round (x : Double) : Double := ofNat x.toRatio.roundHalfUp

/-- The power of a number times `acc`, by repeated squaring from the lowest bit of the exponent up. Every product is
rounded, so the order of the products matters. -/
def powMul (acc base : Double) (n : Nat) : Double :=
  let acc := if n % 2 = 1 then acc.mul base else acc
  if n < 2 then acc else powMul acc (base.mul base) (n / 2)
termination_by n

/-- A power of a number. -/
def pow (base : Double) (n : Nat) : Double := powMul (ofNat 1) base n

/-- The magnitude of a decimal. A fraction is added to the whole part, and the sum is rounded to as many fraction
digits as the decimal has. -/
def ofDecimal (d : Decimal) : Double :=
  let unit := Nat.pow 10 d.scale
  let whole := ofNat (d.mantissa / unit)
  let fraction := (ofNat (d.mantissa % unit)).div (ofNat unit)
  if fraction.significand = 0 then whole
  else
    let power := (ofNat 10).pow d.scale
    (((whole.add fraction).mul power).round).div power

end Double

end FilterLang.Number
