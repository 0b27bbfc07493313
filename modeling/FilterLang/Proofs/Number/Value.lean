import FilterLang.Number.Decimal
import FilterLang.Proofs.Text.Spelling
import Mathlib.Algebra.Order.Field.Basic
import Mathlib.Algebra.Order.Field.Rat
import Mathlib.Tactic.FieldSimp
import Mathlib.Tactic.Linarith
import Mathlib.Tactic.Ring

/-!
# The value of a number as it is written

A number is digits, possibly with a minus sign before them and a point among them or behind them. Its exact value is all
its digits as one integer, divided by ten for each digit after the point. Nothing is rounded here, and nothing is too
large: this is what the readings of numbers are measured by.
-/

namespace FilterLang.Number

open FilterLang.Text

/-! ### The parts of a number -/

/-- Whether a number has a minus sign. -/
def hasMinus (cs : List Char) : Bool := cs.head? == some '-'

/-- A number without its minus sign. -/
def unsigned (cs : List Char) : List Char := if hasMinus cs then cs.tail else cs

/-- The digits of a number before its point. -/
def wholeDigits (cs : List Char) : List Char := (unsigned cs).takeWhile Char.isDigit

/-- The digits of a number after its point. -/
def fractionDigits (cs : List Char) : List Char := ((unsigned cs).dropWhile Char.isDigit).tail

/-- All digits of a number as one natural number. -/
def allDigits (cs : List Char) : Nat := Nat.ofDigitChars 10 (wholeDigits cs ++ fractionDigits cs) 0

/-- All digits of a number as one integer, with the sign of the number. -/
def signedDigits (cs : List Char) : Int := if hasMinus cs then -allDigits cs else allDigits cs

/-- The exact value of a number. -/
def exactValue (cs : List Char) : ℚ := signedDigits cs / 10 ^ (fractionDigits cs).length

/-- The minus sign of a number, if it has one. -/
def minus (negative : Bool) : List Char := if negative then ['-'] else []

section Parts

variable {negative : Bool} {ds k : List Char}

/-- A row of digits begins with no sign. -/
theorem head?_ne_of_isDigits (hds : IsDigits ds) {c : Char} (hc : c.isDigit = false) :
    (ds ++ k).head? ≠ some c := by
  obtain ⟨d, ds, rfl⟩ := List.exists_cons_of_ne_nil hds.1
  rintro h
  cases h
  rw [hds.2 _ List.mem_cons_self] at hc
  cases hc

theorem hasMinus_minus (hds : IsDigits ds) : hasMinus (minus negative ++ (ds ++ k)) = negative := by
  cases negative with
  | true => rfl
  | false =>
    have hhead : (ds ++ k).head? ≠ some '-' := head?_ne_of_isDigits hds (by decide)
    simpa [minus, hasMinus] using hhead

theorem unsigned_minus (hds : IsDigits ds) : unsigned (minus negative ++ (ds ++ k)) = ds ++ k := by
  rw [unsigned, hasMinus_minus hds]
  cases negative <;> rfl

/-- The reader of numbers splits off the same sign. -/
theorem splitSign_minus (hds : IsDigits ds) : splitSign (minus negative ++ (ds ++ k)) = (negative, ds ++ k) := by
  cases negative with
  | true => rfl
  | false =>
    have hminus : (ds ++ k).head? ≠ some '-' := head?_ne_of_isDigits hds (by decide)
    have hplus : (ds ++ k).head? ≠ some '+' := head?_ne_of_isDigits hds (by decide)
    rw [minus, if_neg Bool.false_ne_true, List.nil_append]
    unfold splitSign
    split
    · next h => simp [h] at hminus
    · next h => simp [h] at hplus
    · rfl

theorem wholeDigits_minus (hds : IsDigits ds) (hk : ∀ c ∈ k.head?, c.isDigit = false) :
    wholeDigits (minus negative ++ (ds ++ k)) = ds := by
  rw [wholeDigits, unsigned_minus hds, (takeWhile_run hds.2 hk).1]

theorem fractionDigits_minus (hds : IsDigits ds) (hk : ∀ c ∈ k.head?, c.isDigit = false) :
    fractionDigits (minus negative ++ (ds ++ k)) = k.tail := by
  rw [fractionDigits, unsigned_minus hds, (takeWhile_run hds.2 hk).2]

end Parts

/-- An integer is digits, possibly behind a minus sign. -/
theorem exists_minus_of_isInteger {cs : List Char} (h : IsInteger cs) :
    ∃ negative ds, IsDigits ds ∧ cs = minus negative ++ ds := by
  obtain ⟨ds, hds, rfl | rfl⟩ := h
  · exact ⟨false, cs, hds, rfl⟩
  · exact ⟨true, ds, hds, rfl⟩

/-! ### Digits after the point -/

/-- The value of digits that stand after the point. -/
def fractionValue (ds : List Char) : ℚ := Nat.ofDigitChars 10 ds 0 / 10 ^ ds.length

theorem digitValue_le {c : Char} (hc : c.isDigit = true) : digitValue c ≤ 9 := by
  have := Char.isDigit_iff_toNat.mp hc
  have hnine : '9'.toNat = '0'.toNat + 9 := rfl
  rw [digitValue]
  omega

/-- More digits are put behind a number by making room for them. -/
theorem ofDigitChars_from (n : Nat) (ds : List Char) :
    Nat.ofDigitChars 10 ds n = n * 10 ^ ds.length + Nat.ofDigitChars 10 ds 0 := by
  rw [Nat.ofDigitChars_eq_ofDigitChars_zero]
  ring

/-- More digits never make a number smaller. -/
theorem le_ofDigitChars (n : Nat) (ds : List Char) : n ≤ Nat.ofDigitChars 10 ds n := by
  rw [ofDigitChars_from]
  exact Nat.le_add_right_of_le (Nat.le_mul_of_pos_right n (Nat.pow_pos (by decide)))

@[simp] theorem fractionValue_nil : fractionValue [] = 0 := by simp [fractionValue]

theorem fractionValue_cons (c : Char) (ds : List Char) :
    fractionValue (c :: ds) = (digitValue c + fractionValue ds) / 10 := by
  have hdigits : Nat.ofDigitChars 10 (c :: ds) 0 = digitValue c * 10 ^ ds.length + Nat.ofDigitChars 10 ds 0 := by
    rw [Nat.ofDigitChars_cons, ofDigitChars_from, Nat.mul_zero, Nat.zero_add]
    rfl
  rw [fractionValue, fractionValue, hdigits, List.length_cons, pow_succ]
  push_cast
  field_simp

theorem fractionValue_nonneg (ds : List Char) : 0 ≤ fractionValue ds :=
  div_nonneg (Nat.cast_nonneg _) (pow_nonneg (by norm_num) _)

theorem fractionValue_lt_one {ds : List Char} (hds : ∀ d ∈ ds, d.isDigit = true) : fractionValue ds < 1 := by
  induction ds with
  | nil => simp
  | cons c ds ih =>
    rw [List.forall_mem_cons] at hds
    have hc : (digitValue c : ℚ) ≤ 9 := by exact_mod_cast digitValue_le hds.1
    have hrest : fractionValue ds < 1 := ih hds.2
    rw [fractionValue_cons, div_lt_one (by norm_num)]
    linarith

/-- Digits before and after a point, as one integer. -/
theorem ofDigitChars_append_div (n : Nat) (ds : List Char) :
    (Nat.ofDigitChars 10 ds n : ℚ) / 10 ^ ds.length = n + fractionValue ds := by
  rw [ofDigitChars_from, fractionValue]
  push_cast
  field_simp

/-! ### The exact value -/

/-- A sign as a factor. -/
def signOf (negative : Bool) : ℚ := if negative then -1 else 1

theorem abs_signOf_mul (negative : Bool) (a : ℚ) : |signOf negative * a| = |a| := by
  cases negative <;> simp [signOf]

theorem abs_signOf_sub (negative : Bool) (a b : ℚ) : |signOf negative * a - signOf negative * b| = |a - b| := by
  rw [← mul_sub, abs_signOf_mul]

section Exact

variable {negative : Bool} {whole k : List Char}

theorem allDigits_minus (hwhole : IsDigits whole) (hk : ∀ c ∈ k.head?, c.isDigit = false) :
    allDigits (minus negative ++ (whole ++ k)) = Nat.ofDigitChars 10 (whole ++ k.tail) 0 := by
  rw [allDigits, wholeDigits_minus hwhole hk, fractionDigits_minus hwhole hk]

theorem signedDigits_minus (hwhole : IsDigits whole) (hk : ∀ c ∈ k.head?, c.isDigit = false) :
    (signedDigits (minus negative ++ (whole ++ k)) : ℚ) =
      signOf negative * Nat.ofDigitChars 10 (whole ++ k.tail) 0 := by
  rw [signedDigits, hasMinus_minus hwhole, allDigits_minus hwhole hk]
  cases negative <;> simp [signOf]

/-- The exact value is that of the digits before the point and of those after it together. -/
theorem exactValue_minus (hwhole : IsDigits whole) (hk : ∀ c ∈ k.head?, c.isDigit = false) :
    exactValue (minus negative ++ (whole ++ k)) =
      signOf negative * (Nat.ofDigitChars 10 whole 0 + fractionValue k.tail) := by
  rw [exactValue, signedDigits_minus hwhole hk, fractionDigits_minus hwhole hk, Nat.ofDigitChars_append,
    ← ofDigitChars_append_div, mul_div_assoc]

end Exact

end FilterLang.Number
