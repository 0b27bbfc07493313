import FilterLang.Number.Double

/-!
# Shortest digits

The fewest decimal digits that are read back as a given number of double precision. Of the numbers with that many
digits that are read back, the nearest to the exact value is taken; of two that are equally near, the even one.

## The model

The fractions that round to a number make up an interval around it, which includes its ends if the significand is even.
For one digit, two digits and so on, the two neighbours of the exact value on the grid of that many digits are tried.
Seventeen digits always suffice.
-/

namespace FilterLang.Number

/-- Decimal digits, the first of which has the weight `10 ^ exponent`. -/
structure Digits where
  /-- The digits from the highest down, without zeros at the end. -/
  digits : List Char
  /-- The weight of the first digit as a power of ten. -/
  exponent : Int
  deriving DecidableEq, Repr

namespace Shortest

/-- Whether a fraction is read as the number `d`: it lies no further from it than halfway to the next number on either
side. The next number below a power of two is only half as far away. -/
def readsAs (d : Double) (x : Ratio) : Bool :=
  let at4 (n : Nat) : Ratio := (Ratio.ofNat n).scale 2 (d.exponent - 2)
  let low := at4 (4 * d.significand - if d.significand = Nat.pow 2 Double.leadingBit then 1 else 2)
  let high := at4 (4 * d.significand + 2)
  if d.significand % 2 = 0 then low.le x && x.le high else low.lt x && x.lt high

/-- The decimal exponent of the first digit of a fraction other than zero. -/
def leadingExponent (x : Ratio) : Int :=
  let shift := x.den.log2 + 1
  ((toString (x.scale 10 shift).floor).length : Int) - 1 - shift

/-- Removes the zeros at the end of digits. -/
def dropZeros (digits : List Char) : List Char := (digits.reverse.dropWhile (· == '0')).reverse

/-- The digits of `n * 10 ^ grid`. -/
def digitsOf (n : Nat) (grid : Int) : Digits :=
  let all := (toString n).toList
  ⟨dropZeros all, grid + all.length - 1⟩

/-- The multiple of `10 ^ grid` next to a number that is read back as the number, if there is one. -/
def onGrid? (d : Double) (grid : Int) : Option Digits :=
  let x := d.toRatio.scale 10 (-grid)
  let reads (n : Nat) : Bool := readsAs d ((Ratio.ofNat n).scale 10 grid)
  let near := x.roundHalfEven
  let far := if near = x.floor then near + 1 else near - 1
  if reads near then some (digitsOf near grid)
  else if reads far then some (digitsOf far grid)
  else none

/-- The most digits that are ever needed. -/
def maxDigits : Nat := 17

/-- The shortest digits of a number other than zero. -/
def digits (d : Double) : Digits :=
  let leading := leadingExponent d.toRatio
  let found := (List.range maxDigits).findSome? fun (k : Nat) => onGrid? d (leading - k)
  found.getD (digitsOf d.toRatio.floor 0)

end Shortest

/-- Where digits are written without an exponent: as long as the weight of the first digit is in this range. -/
structure Layout where
  /-- The least power of ten. -/
  low : Int
  /-- The greatest power of ten. -/
  high : Int
  deriving DecidableEq, Repr

namespace Layout

/-- So many zeros. -/
def zeros (n : Nat) : List Char := List.replicate n '0'

/-- Digits without an exponent, with at least one digit on either side of the point. -/
def plain (ds : Digits) : List Char :=
  if ds.exponent < 0 then '0' :: '.' :: (zeros (-ds.exponent - 1).toNat ++ ds.digits)
  else
    let whole := ds.exponent.toNat + 1
    if ds.digits.length ≤ whole then ds.digits ++ zeros (whole - ds.digits.length) ++ ['.', '0']
    else ds.digits.take whole ++ '.' :: ds.digits.drop whole

/-- Digits with one digit before the point, and an exponent with its sign. -/
def scientific (ds : Digits) : List Char :=
  let point := if ds.digits.length ≤ 1 then [] else ['.']
  let sign := if ds.exponent < 0 then '-' else '+'
  ds.digits.take 1 ++ point ++ ds.digits.drop 1 ++ 'e' :: sign :: (toString ds.exponent.natAbs).toList

/-- Digits as text. -/
def write (layout : Layout) (ds : Digits) : List Char :=
  if layout.low ≤ ds.exponent ∧ ds.exponent ≤ layout.high then plain ds else scientific ds

end Layout

end FilterLang.Number
