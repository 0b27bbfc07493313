import FilterLang.Proofs.Number.Value

/-!
# How decimals are read

A decimal takes the digits of a number as long as they fit. If they all do, it is the number itself
(`foldlM_of_fits`). A digit before the point that does not fit means that the number is too large
(`foldlM_of_overflow`), since more digits only make it larger. A digit after the point that does not fit is where the
number is rounded, and the decimal is then off by half a unit of its last digit at most (`reads_fraction`).

The invariant of the digits after the point is the number itself: what has been taken and what is still to come have the
same value as before, however the digits are divided between the two.
-/

namespace FilterLang.Number

open FilterLang.Text

/-- The exact value of a decimal. -/
def Decimal.toRat (d : Decimal) : ℚ := (if d.negative then -1 else 1) * d.mantissa / 10 ^ d.scale

namespace Decimal

/-- A decimal of this mantissa and scale differs from a number by half a unit of its last digit at most. -/
structure Rounds (x : ℚ) (mantissa scale : Nat) : Prop where
  /-- The mantissa fits. -/
  mantissa_lt : mantissa < mantissaLimit
  /-- The scale fits. -/
  scale_le : scale ≤ scaleLimit
  /-- The decimal is near the number. -/
  abs_le : |mantissa / 10 ^ scale - x| ≤ 1 / 2 * (10 ^ scale)⁻¹

/-- What should come of reading the digits of a number: nothing if it is too large even to be rounded, and otherwise a
decimal that it is rounded to. -/
def Reads (x : ℚ) : Option Partial → Prop
  | none => mantissaLimit - 1 / 2 ≤ x
  | some p => x < mantissaLimit - 1 / 2 ∧ Rounds x p.mantissa p.scale ∧ p.started = true

namespace Partial

/-! ### Digits that fit -/

/-- A reading that goes on after these digits, if they fit. -/
def after (p : Partial) (ds : List Char) : Partial :=
  ⟨Nat.ofDigitChars 10 ds p.mantissa, if p.point then p.scale + ds.length else p.scale, p.point,
    p.started || !ds.isEmpty, p.rounded⟩

@[simp] theorem after_nil (p : Partial) : p.after [] = p := by
  cases p
  simp [after]

theorem read_digit {c : Char} (hc : c.isDigit = true) (p : Partial) : p.read c = p.digit (digitValue c) := by
  rw [read, if_pos hc]

/-- A digit that fits is taken. -/
theorem read_of_fits {p : Partial} {c : Char} (hc : c.isDigit = true) (hp : p.rounded = false)
    (hlt : Nat.ofDigitChars 10 [c] p.mantissa < mantissaLimit) (hscale : p.point = true → p.scale < scaleLimit) :
    p.read c = some (p.after [c]) := by
  rw [read_digit hc, digit, if_neg (by simp [hp])]
  dsimp only
  rw [if_pos ⟨hlt, hscale⟩]
  simp [after, Nat.ofDigitChars_cons, digitValue]

theorem after_cons (p : Partial) (c : Char) (ds : List Char) : p.after (c :: ds) = (p.after [c]).after ds := by
  cases hpoint : p.point <;> simp [after, hpoint, Nat.ofDigitChars_cons, Nat.add_comm, Nat.add_left_comm]

/-- **Digits that fit are all taken.** -/
theorem foldlM_of_fits {ds : List Char} (hds : ∀ d ∈ ds, d.isDigit = true) {p : Partial} (hp : p.rounded = false)
    (hlt : Nat.ofDigitChars 10 ds p.mantissa < mantissaLimit)
    (hscale : p.point = true → p.scale + ds.length ≤ scaleLimit) : ds.foldlM read p = some (p.after ds) := by
  induction ds generalizing p with
  | nil => simp
  | cons c ds ih =>
    rw [List.forall_mem_cons] at hds
    have hfirst : Nat.ofDigitChars 10 [c] p.mantissa < mantissaLimit := by
      refine Nat.lt_of_le_of_lt (le_ofDigitChars _ ds) ?_
      simpa [Nat.ofDigitChars_cons] using hlt
    have hread : p.read c = some (p.after [c]) :=
      read_of_fits hds.1 hp hfirst fun h => by
        have := hscale h
        rw [List.length_cons] at this
        omega
    rw [List.foldlM_cons, hread, after_cons p c ds]
    refine ih hds.2 hp ?_ ?_
    · simpa [after, Nat.ofDigitChars_cons] using hlt
    · intro h
      have hpoint : p.point = true := h
      have := hscale hpoint
      simp only [after, hpoint, if_true, List.length_cons, List.length_nil] at this ⊢
      omega

/-- **Digits before the point that do not fit cannot be read.** -/
theorem foldlM_of_overflow {ds : List Char} (hds : ∀ d ∈ ds, d.isDigit = true) {p : Partial} (hp : p.rounded = false)
    (hpoint : p.point = false) (hmantissa : p.mantissa < mantissaLimit)
    (hge : mantissaLimit ≤ Nat.ofDigitChars 10 ds p.mantissa) : ds.foldlM read p = none := by
  induction ds generalizing p with
  | nil => exact absurd hmantissa (Nat.not_lt.mpr hge)
  | cons c ds ih =>
    rw [List.forall_mem_cons] at hds
    rw [List.foldlM_cons]
    by_cases hfits : Nat.ofDigitChars 10 [c] p.mantissa < mantissaLimit
    · rw [read_of_fits hds.1 hp hfits (by simp [hpoint])]
      refine ih hds.2 hp hpoint hfits ?_
      simpa [after, Nat.ofDigitChars_cons] using hge
    · have hdigit : ¬ 10 * p.mantissa + digitValue c < mantissaLimit := hfits
      rw [read_digit hds.1, digit, if_neg (by simp [hp])]
      simp [hdigit, hpoint]

/-! ### The digit that does not fit -/

/-- Once the mantissa has been rounded, more digits change nothing. -/
theorem foldlM_of_rounded {ds : List Char} (hds : ∀ d ∈ ds, d.isDigit = true) {p : Partial} (hp : p.rounded = true) :
    ds.foldlM read p = some p := by
  induction ds with
  | nil => rfl
  | cons c ds ih =>
    rw [List.forall_mem_cons] at hds
    have hread : p.read c = some p := by rw [read_digit hds.1, digit, if_pos hp]
    rw [List.foldlM_cons, hread]
    exact ih hds.2

end Partial

section Rounding

variable {m s : Nat} {y : ℚ}

/-- Rounding to a whole number of units. -/
theorem rounds_of_abs_le (hm : m < mantissaLimit) (hs : s ≤ scaleLimit) (h : |m - y| ≤ 1 / 2) :
    Rounds (y / 10 ^ s) m s := by
  refine ⟨hm, hs, ?_⟩
  have hunit : (0 : ℚ) < 10 ^ s := pow_pos (by norm_num) s
  rw [← sub_div, abs_div, abs_of_pos hunit, div_eq_mul_inv]
  exact mul_le_mul_of_nonneg_right h (inv_nonneg.mpr hunit.le)

/-- Digits after the point make a number no larger than what they are digits of. -/
theorem div_pow_lt {z : ℚ} (hy : 0 ≤ y) (h : y < z) : y / 10 ^ s < z :=
  lt_of_le_of_lt (div_le_self hy (one_le_pow₀ (by norm_num))) h

/-- A mantissa that fits is the number itself. -/
theorem reads_exact (hm : m < mantissaLimit) (hs : s ≤ scaleLimit) {point rounded : Bool} :
    Reads (m / 10 ^ s) (some ⟨m, s, point, true, rounded⟩) := by
  have hm' : (m : ℚ) + 1 ≤ mantissaLimit := by exact_mod_cast hm
  refine ⟨div_pow_lt (Nat.cast_nonneg m) (by linarith), rounds_of_abs_le hm hs ?_, rfl⟩
  rw [sub_self, abs_zero]
  norm_num

/-- Rounding up to the limit gives up the last digit as well. The limit is four less than a multiple of ten. -/
theorem reads_carry {r : ℚ} (hlast : m + 1 = mantissaLimit) (hs : s + 1 ≤ scaleLimit) (hr : 1 / 2 ≤ r) (hr' : r < 1) :
    Reads ((m + r) / 10 ^ (s + 1)) (some ⟨(m + 5) / 10, s, true, true, true⟩) := by
  have hlast' : (m : ℚ) + 1 = mantissaLimit := by exact_mod_cast hlast
  have hten : 10 * ((m + 5) / 10) = m + 5 := by
    have : m = Nat.pow 2 96 - 1 := by
      rw [mantissaLimit] at hlast
      omega
    subst this
    decide
  have hten' : 10 * (((m + 5) / 10 : ℕ) : ℚ) = m + 5 := by exact_mod_cast hten
  have hvalue : (m + r) / 10 ^ (s + 1) = (m + r) / 10 / 10 ^ s := by rw [pow_succ', div_div]
  have hfits : (m + 5) / 10 < mantissaLimit := by omega
  have hm : (0 : ℚ) ≤ m := Nat.cast_nonneg m
  rw [hvalue]
  refine ⟨div_pow_lt (by linarith) (by linarith), rounds_of_abs_le hfits (Nat.le_of_succ_le hs) ?_, rfl⟩
  rw [abs_le]
  constructor <;> linarith

/-- **The first digit that does not fit decides how the digits before it are rounded.** What is still to come, that
digit first, makes up the part `r` of a unit. -/
theorem reads_round (hm : m < mantissaLimit) (hs : s ≤ scaleLimit) {d : Nat} {r : ℚ} (hr : 0 ≤ r) (hr' : r < 1)
    (hdown : d < 5 → r < 1 / 2) (hup : ¬ d < 5 → 1 / 2 ≤ r) :
    Reads ((m + r) / 10 ^ s) (Partial.round ⟨m, s, true, true, false⟩ d) := by
  have hm' : (m : ℚ) + 1 ≤ mantissaLimit := by exact_mod_cast hm
  have hmr : 0 ≤ (m : ℚ) + r := add_nonneg (Nat.cast_nonneg m) hr
  unfold Partial.round
  by_cases hd : d < 5
  · have hr₂ : r < 1 / 2 := hdown hd
    rw [if_pos hd]
    refine ⟨div_pow_lt hmr (by linarith), rounds_of_abs_le hm hs ?_, rfl⟩
    rw [abs_le]
    constructor <;> linarith
  · have hr₂ : 1 / 2 ≤ r := hup hd
    rw [if_neg hd]
    dsimp only
    by_cases hroom : m + 1 < mantissaLimit
    · have hroom' : (m : ℚ) + 1 + 1 ≤ mantissaLimit := by exact_mod_cast hroom
      rw [if_pos hroom]
      refine ⟨div_pow_lt hmr (by linarith), rounds_of_abs_le hroom hs ?_, rfl⟩
      push_cast
      rw [abs_le]
      constructor <;> linarith
    · have hlast : m + 1 = mantissaLimit := Nat.le_antisymm hm (Nat.not_lt.mp hroom)
      have hlast' : (m : ℚ) + 1 = mantissaLimit := by exact_mod_cast hlast
      rw [if_neg hroom]
      cases s with
      | zero =>
        rw [if_pos rfl, pow_zero, div_one]
        show (mantissaLimit : ℚ) - 1 / 2 ≤ m + r
        linarith
      | succ s =>
        rw [if_neg (Nat.succ_ne_zero s)]
        exact reads_carry hlast hs hr₂ hr'

theorem Partial.rounded_of_round {p q : Partial} {d : Nat} (h : p.round d = some q) : q.rounded = true := by
  unfold Partial.round at h
  split at h
  · cases h
    rfl
  · split at h
    · cases h
      rfl
    · split at h
      · cases h
      · cases h
        rfl

/-- **Digits after the point are read to a decimal that the number is rounded to.** -/
theorem reads_fraction {ds : List Char} (hds : ∀ d ∈ ds, d.isDigit = true) (hm : m < mantissaLimit)
    (hs : s ≤ scaleLimit) :
    Reads ((m + fractionValue ds) / 10 ^ s) (ds.foldlM Partial.read ⟨m, s, true, true, false⟩) := by
  induction ds generalizing m s with
  | nil =>
    rw [fractionValue_nil, add_zero]
    exact reads_exact hm hs
  | cons c ds ih =>
    rw [List.forall_mem_cons] at hds
    rw [List.foldlM_cons]
    by_cases hfits : Nat.ofDigitChars 10 [c] m < mantissaLimit ∧ s < scaleLimit
    · -- the digit moves from what is still to come to what has been taken
      have hvalue : (m + fractionValue (c :: ds)) / 10 ^ s =
          ((Nat.ofDigitChars 10 [c] m : ℕ) + fractionValue ds) / 10 ^ (s + 1) := by
        rw [fractionValue_cons, Nat.ofDigitChars_cons, Nat.ofDigitChars_nil, pow_succ, digitValue]
        push_cast
        field_simp
        ring
      rw [Partial.read_of_fits hds.1 rfl hfits.1 fun _ => hfits.2, hvalue]
      exact ih hds.2 hfits.1 hfits.2
    · have hrest : fractionValue ds < 1 := fractionValue_lt_one hds.2
      have hrest' : 0 ≤ fractionValue ds := fractionValue_nonneg ds
      have hread : Partial.read ⟨m, s, true, true, false⟩ c =
          Partial.round ⟨m, s, true, true, false⟩ (digitValue c) := by
        rw [Partial.read_digit hds.1, Partial.digit, if_neg (by simp)]
        dsimp only
        rw [if_neg (by simpa [Nat.ofDigitChars_cons, digitValue] using hfits), if_pos rfl]
      have hdown : digitValue c < 5 → fractionValue (c :: ds) < 1 / 2 := fun h => by
        have : (digitValue c : ℚ) + 1 ≤ 5 := by exact_mod_cast h
        rw [fractionValue_cons]
        linarith
      have hup : ¬ digitValue c < 5 → 1 / 2 ≤ fractionValue (c :: ds) := fun h => by
        have : (5 : ℚ) ≤ digitValue c := by exact_mod_cast Nat.not_lt.mp h
        rw [fractionValue_cons]
        linarith
      have hround := reads_round hm hs (fractionValue_nonneg (c :: ds))
        (fractionValue_lt_one (List.forall_mem_cons.mpr hds)) hdown hup
      rw [hread]
      cases hp : Partial.round ⟨m, s, true, true, false⟩ (digitValue c) with
      | none =>
        rw [hp] at hround
        exact hround
      | some p =>
        rw [hp] at hround
        show Reads _ (ds.foldlM Partial.read p)
        rw [Partial.foldlM_of_rounded hds.2 (Partial.rounded_of_round hp)]
        exact hround

end Rounding

/-! ### Whole numbers and numbers with a point -/

/-- The fraction digits of a number with the point before them. Without digits there is no point either. -/
def pointed (fraction : List Char) : List Char := if fraction.isEmpty then [] else '.' :: fraction

section Numbers

variable {whole fraction : List Char}

theorem foldlM_pointed (hfraction : fraction ≠ []) {m : Nat} :
    (pointed fraction).foldlM Partial.read ⟨m, 0, false, true, false⟩ =
      fraction.foldlM Partial.read ⟨m, 0, true, true, false⟩ := by
  rw [pointed, if_neg (by simpa using hfraction)]
  rfl

/-- The digits before the point have been read. -/
theorem after_whole (hwhole : IsDigits whole) :
    Partial.start.after whole = ⟨Nat.ofDigitChars 10 whole 0, 0, false, true, false⟩ := by
  simp [Partial.after, Partial.start, hwhole.1]

/-- **A number that fits with all its digits is taken as it is.** -/
theorem foldlM_number_of_fits (hwhole : IsDigits whole) (hfraction : ∀ d ∈ fraction, d.isDigit = true)
    (hlt : Nat.ofDigitChars 10 (whole ++ fraction) 0 < mantissaLimit) (hscale : fraction.length ≤ scaleLimit) :
    (whole ++ pointed fraction).foldlM Partial.read Partial.start =
      some ⟨Nat.ofDigitChars 10 (whole ++ fraction) 0, fraction.length, !fraction.isEmpty, true, false⟩ := by
  rw [Nat.ofDigitChars_append] at hlt ⊢
  have hfirst : Nat.ofDigitChars 10 whole 0 < mantissaLimit := Nat.lt_of_le_of_lt (le_ofDigitChars _ fraction) hlt
  have hread : whole.foldlM Partial.read Partial.start = some (Partial.start.after whole) :=
    Partial.foldlM_of_fits hwhole.2 rfl hfirst (fun h => by cases h)
  rw [List.foldlM_append, hread, after_whole hwhole]
  show (pointed fraction).foldlM Partial.read _ = _
  by_cases hempty : fraction = []
  · subst hempty
    rfl
  · rw [foldlM_pointed hempty, Partial.foldlM_of_fits hfraction rfl hlt (by simpa using hscale)]
    simp [Partial.after, hempty]

/-- **The digits of a number are read to a decimal that it is rounded to**, unless it is too large. -/
theorem reads_number (hwhole : IsDigits whole) (hfraction : ∀ d ∈ fraction, d.isDigit = true) :
    Reads (Nat.ofDigitChars 10 whole 0 + fractionValue fraction)
      ((whole ++ pointed fraction).foldlM Partial.read Partial.start) := by
  rw [List.foldlM_append]
  by_cases hlt : Nat.ofDigitChars 10 whole 0 < mantissaLimit
  · rw [Partial.foldlM_of_fits hwhole.2 rfl hlt (fun h => by cases h), after_whole hwhole]
    show Reads _ ((pointed fraction).foldlM Partial.read _)
    rw [← div_one (_ + fractionValue fraction), ← pow_zero 10]
    by_cases hempty : fraction = []
    · subst hempty
      rw [fractionValue_nil, add_zero]
      exact reads_exact hlt (Nat.zero_le _)
    · rw [foldlM_pointed hempty]
      exact reads_fraction hfraction hlt (Nat.zero_le _)
  · have hge : mantissaLimit ≤ Nat.ofDigitChars 10 whole 0 := Nat.not_lt.mp hlt
    have hge' : (mantissaLimit : ℚ) ≤ Nat.ofDigitChars 10 whole 0 := by exact_mod_cast hge
    have hnonneg : 0 ≤ fractionValue fraction := fractionValue_nonneg fraction
    rw [Partial.foldlM_of_overflow hwhole.2 rfl rfl (by decide) hge]
    show (mantissaLimit : ℚ) - 1 / 2 ≤ _
    linarith

end Numbers

/-! ### The decimal that is read -/

/-- Zero has no sign, so the sign of a decimal is that of the number. -/
theorem toRat_signed (negative : Bool) (m s : Nat) :
    toRat ⟨negative && m != 0, m, s⟩ = signOf negative * (m / 10 ^ s) := by
  by_cases hm : m = 0
  · simp [toRat, hm]
  · cases negative <;> simp [toRat, signOf, hm, neg_div]

theorem Partial.finish_eq (negative : Bool) {p : Partial} (hp : p.started = true) :
    p.finish negative = some ⟨negative && p.mantissa != 0, p.mantissa, p.scale⟩ := if_pos hp

namespace Reads

variable {y : ℚ} {result : Option Partial}

theorem cast_mantissaLimit : (mantissaLimit : ℚ) = 2 ^ 96 := by norm_num [mantissaLimit]

/-- There is no decimal just if the number is too large. -/
theorem finish_eq_none_iff (h : Reads y result) (negative : Bool) :
    result.bind (Partial.finish negative) = none ↔ 2 ^ 96 - 1 / 2 ≤ y := by
  rw [← cast_mantissaLimit]
  cases result with
  | none => exact iff_of_true rfl h
  | some p =>
    obtain ⟨hlt, -, hstarted⟩ := h
    rw [Option.bind_some, Partial.finish_eq negative hstarted]
    exact iff_of_false (Option.some_ne_none _) (not_le.mpr hlt)

/-- A decimal that is read is near the number, with its sign. -/
theorem of_finish (h : Reads y result) {negative : Bool} {d : Decimal}
    (hd : result.bind (Partial.finish negative) = some d) :
    d.mantissa < 2 ^ 96 ∧ d.scale ≤ 28 ∧ |d.toRat - signOf negative * y| ≤ 1 / 2 * (10 ^ d.scale)⁻¹ ∧
      (d.mantissa = 0 → d.negative = false) := by
  cases result with
  | none => cases hd
  | some p =>
    obtain ⟨-, hrounds, hstarted⟩ := h
    rw [Option.bind_some, Partial.finish_eq negative hstarted] at hd
    cases hd
    refine ⟨hrounds.mantissa_lt, hrounds.scale_le, ?_, fun hzero => ?_⟩
    · rw [toRat_signed, abs_signOf_sub]
      exact hrounds.abs_le
    · dsimp only at hzero ⊢
      simp [hzero]

end Reads

/-- A decimal is read from the digits of a number, without its sign. -/
theorem ofText?_eq {text : String} {negative : Bool} {ds k : List Char} (hds : IsDigits ds)
    (htext : text.toList = minus negative ++ (ds ++ k)) :
    ofText? text =
      ((ds ++ k).foldlM Partial.read Partial.start).bind (Partial.finish negative) := by
  rw [ofText?, htext, splitSign_minus hds]

end Decimal

end FilterLang.Number
