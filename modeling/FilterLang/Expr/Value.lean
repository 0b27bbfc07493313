import FilterLang.Expr.Basic
import FilterLang.Number.Decimal

/-!
# Values of number literals

Expressions keep numbers as they were written. Here they are read: a number without a point as an integer of 64 bits,
and any number as a decimal of 96 bits. A number that does not fit has no value.
-/

namespace FilterLang.Expr

/-- A text without a point at its end: a decimal may end in a point with no digit after it. -/
def dropFinalPoint (text : String) : String :=
  match text.toList.reverse with
  | '.' :: cs => String.ofList cs.reverse
  | _ => text

/-- The value of a number as a decimal. -/
def decimalValue? : Expr → Option Number.Decimal
  | .integer text => Number.Decimal.ofText? (dropFinalPoint text)
  | .decimal text => Number.Decimal.ofText? (dropFinalPoint text)
  | _ => none

/-- The value of a number without a point as an integer. -/
def integerValue? : Expr → Option Int
  | .integer text => Number.integer? text
  | _ => none

end FilterLang.Expr
