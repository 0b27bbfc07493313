import FilterLang.Number.Integer

/-!
# Decimals of 96 bits

A decimal is a sign, a mantissa below 2^96 and a number of fraction digits, at most 28. Reading a text takes its digits
from left to right. When a fraction digit no longer fits, it decides how the digits before it are rounded, and the
digits after it are ignored. A digit before the point that does not fit makes the text unreadable.
-/

namespace FilterLang.Number

/-- A decimal number, `± mantissa / 10 ^ scale`. -/
structure Decimal where
  /-- Whether the number is below zero. -/
  negative : Bool
  /-- The digits of the number as one integer. -/
  mantissa : Nat
  /-- How many of the digits stand after the point. -/
  scale : Nat
  deriving DecidableEq, Repr

namespace Decimal

/-- Mantissas are below this. -/
def mantissaLimit : Nat := Nat.pow 2 96

/-- The largest number of fraction digits. -/
def scaleLimit : Nat := 28

/-- A text that is being read. -/
structure Partial where
  /-- The digits taken so far, as one integer. -/
  mantissa : Nat
  /-- How many of them stand after the point. -/
  scale : Nat
  /-- Whether the point has been read. -/
  point : Bool
  /-- Whether a digit has been read. -/
  started : Bool
  /-- Whether the mantissa has been rounded, so that no digit is taken any more. -/
  rounded : Bool
  deriving DecidableEq, Repr

/-- Before anything is read. -/
def Partial.start : Partial := ⟨0, 0, false, false, false⟩

/-- Rounds to the digits taken so far, by the first digit that does not fit. Rounding up can exceed the mantissa's
limit; then the last digit is given up as well. -/
def Partial.round (p : Partial) (digit : Nat) : Option Partial :=
  if digit < 5 then some { p with started := true, rounded := true }
  else if p.mantissa + 1 < mantissaLimit then
    some { p with mantissa := p.mantissa + 1, started := true, rounded := true }
  else if p.scale = 0 then none
  else
    some { p with mantissa := (p.mantissa + 5) / 10, scale := p.scale - 1, started := true, rounded := true }

/-- Reads one digit. -/
def Partial.digit (p : Partial) (digit : Nat) : Option Partial :=
  if p.rounded then some p
  else
    let mantissa := 10 * p.mantissa + digit
    if mantissa < mantissaLimit ∧ (p.point = true → p.scale < scaleLimit) then
      some { p with mantissa := mantissa, scale := if p.point then p.scale + 1 else p.scale, started := true }
    else if p.point then p.round digit
    else none

/-- Reads one character. Digits may be grouped by `_`, but not before the first of them. -/
def Partial.read (p : Partial) (c : Char) : Option Partial :=
  if c.isDigit then p.digit (digitValue c)
  else if c = '_' ∧ p.started then some p
  else if c = '.' ∧ ¬ p.point then some { p with point := true }
  else none

/-- The decimal that has been read. Zero has no sign. -/
def Partial.finish (negative : Bool) (p : Partial) : Option Decimal :=
  if p.started then some ⟨negative && p.mantissa != 0, p.mantissa, p.scale⟩ else none

/-- Reads the text of a decimal. -/
def ofText? (text : String) : Option Decimal :=
  let (negative, digits) := splitSign text.toList
  (digits.foldlM Partial.read Partial.start).bind (Partial.finish negative)

/-- A decimal as text, with exactly `scale` fraction digits. -/
def display (d : Decimal) : String :=
  let sign := if d.negative then "-" else ""
  let whole := toString (d.mantissa / Nat.pow 10 d.scale)
  if d.scale = 0 then sign ++ whole
  else
    let fraction := toString (d.mantissa % Nat.pow 10 d.scale)
    sign ++ whole ++ "." ++ "".pushn '0' (d.scale - fraction.length) ++ fraction

end Decimal

end FilterLang.Number
