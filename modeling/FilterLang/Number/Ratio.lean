/-!
# Non-negative fractions

A fraction is a numerator and a denominator, not necessarily in lowest terms. All arithmetic on it is exact; rounding
is a step of its own.
-/

namespace FilterLang.Number

/-- The number `num / den`. Denominators are positive in all uses. -/
structure Ratio where
  /-- The numerator. -/
  num : Nat
  /-- The denominator. -/
  den : Nat
  deriving DecidableEq, Repr

namespace Ratio

/-- A natural number as a fraction. -/
def ofNat (n : Nat) : Ratio := ⟨n, 1⟩

/-- The sum of two fractions. -/
def add (x y : Ratio) : Ratio := ⟨x.num * y.den + y.num * x.den, x.den * y.den⟩

/-- The product of two fractions. -/
def mul (x y : Ratio) : Ratio := ⟨x.num * y.num, x.den * y.den⟩

/-- The quotient of two fractions, of which the second is not zero. -/
def div (x y : Ratio) : Ratio := ⟨x.num * y.den, x.den * y.num⟩

/-- Whether one fraction is at most another. -/
def le (x y : Ratio) : Bool := x.num * y.den ≤ y.num * x.den

/-- Whether one fraction is less than another. -/
def lt (x y : Ratio) : Bool := x.num * y.den < y.num * x.den

/-- The fraction times a power of the base, which may be negative. -/
def scale (base : Nat) (exponent : Int) (x : Ratio) : Ratio :=
  match exponent with
  | .ofNat n => ⟨x.num * Nat.pow base n, x.den⟩
  | .negSucc n => ⟨x.num, x.den * Nat.pow base (n + 1)⟩

/-- The largest natural number that is at most the fraction. -/
def floor (x : Ratio) : Nat := x.num / x.den

/-- The nearest natural number; a half goes up. -/
def roundHalfUp (x : Ratio) : Nat := (2 * x.num + x.den) / (2 * x.den)

/-- The nearest natural number; a half goes to the even neighbour. -/
def roundHalfEven (x : Ratio) : Nat :=
  let whole := x.num / x.den
  let twice := 2 * (x.num % x.den)
  if twice < x.den ∨ (twice = x.den ∧ whole % 2 = 0) then whole else whole + 1

end Ratio

end FilterLang.Number
