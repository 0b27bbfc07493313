import FilterLang.Expr.Json
import FilterLang.Proofs.Number.Decimal

/-!
# The values of number literals

A decimal literal has the value that is written, rounded to the digits that fit, unless it is too large to be rounded
(`decimalValue?_decimal`). An integer literal has its value exactly if it has one (`decimalValue?_integer`). Of its two
readings the one of 64 bits has the smaller range, so they never disagree, and the JSON of the literal shows the value
of the first that succeeds (`integer_readings`).
-/

namespace FilterLang

open FilterLang.Number FilterLang.Text

namespace Expr

/-! ### The point at the end -/

/-- A point at the end is not read. -/
theorem toList_dropFinalPoint_point {text : String} {cs : List Char} (h : text.toList = cs ++ ['.']) :
    (dropFinalPoint text).toList = cs := by
  have hreverse : text.toList.reverse = '.' :: cs.reverse := by rw [h, List.reverse_append]; rfl
  rw [dropFinalPoint, hreverse]
  simp

/-- A number that ends in a digit is read as it is. -/
theorem dropFinalPoint_of_digit {text : String} {cs : List Char} {d : Char} (h : text.toList = cs ++ [d])
    (hd : d.isDigit = true) : dropFinalPoint text = text := by
  have hreverse : text.toList.reverse = d :: cs.reverse := by rw [h, List.reverse_append]; rfl
  rw [dropFinalPoint, hreverse]
  split
  · next heq =>
    cases heq
    exact absurd hd (by decide)
  · rfl

theorem dropFinalPoint_of_digits {text : String} {cs ds : List Char} (h : text.toList = cs ++ ds) (hne : ds ≠ [])
    (hds : ∀ d ∈ ds, d.isDigit = true) : dropFinalPoint text = text := by
  have hlast : text.toList = (cs ++ ds.dropLast) ++ [ds.getLast hne] := by
    rw [h, List.append_assoc, List.dropLast_concat_getLast]
  exact dropFinalPoint_of_digit hlast (hds _ (List.getLast_mem hne))

/-- The characters of a decimal that are read. -/
theorem toList_dropFinalPoint {text : String} {cs fraction : List Char} (h : text.toList = cs ++ '.' :: fraction)
    (hfraction : ∀ d ∈ fraction, d.isDigit = true) :
    (dropFinalPoint text).toList = cs ++ Decimal.pointed fraction := by
  by_cases hempty : fraction = []
  · subst hempty
    rw [toList_dropFinalPoint_point h]
    simp [Decimal.pointed]
  · have happend : text.toList = (cs ++ ['.']) ++ fraction := by simp [h]
    rw [dropFinalPoint_of_digits happend hempty hfraction, h, Decimal.pointed, if_neg (by simpa using hempty)]

/-! ### Decimal literals -/

/-- The parts of a decimal. -/
theorem exists_parts_of_isDecimal {cs : List Char} (h : IsDecimal cs) :
    ∃ negative whole fraction, IsDigits whole ∧ (∀ d ∈ fraction, d.isDigit = true) ∧
      cs = minus negative ++ (whole ++ '.' :: fraction) := by
  obtain ⟨whole', fraction, hwhole', hfraction, rfl⟩ := h
  obtain ⟨negative, whole, hwhole, rfl⟩ := exists_minus_of_isInteger hwhole'
  exact ⟨negative, whole, fraction, hwhole, hfraction, List.append_assoc ..⟩

/-- The value of a decimal literal is read from its digits. -/
theorem decimalValue?_of_parts {text : String} {negative : Bool} {whole fraction : List Char} (hwhole : IsDigits whole)
    (hfraction : ∀ d ∈ fraction, d.isDigit = true)
    (htext : text.toList = minus negative ++ (whole ++ '.' :: fraction)) :
    (Expr.decimal text).decimalValue? =
      ((whole ++ Decimal.pointed fraction).foldlM Decimal.Partial.read Decimal.Partial.start).bind
        (Decimal.Partial.finish negative) := by
  refine Decimal.ofText?_eq hwhole ?_
  rw [← List.append_assoc] at htext ⊢
  exact toList_dropFinalPoint htext hfraction

/-- **A decimal literal has the value that is written, correctly rounded.** It has no value just if it is too large to
be rounded to 96 bits. Otherwise its value is off by half a unit of its last digit at most; it is exact, with all digits
that are written, if they fit; and a zero is never negative. -/
theorem decimalValue?_decimal (text : String) (h : IsDecimal text.toList) :
    let x := exactValue text.toList
    let fraction := fractionDigits text.toList
    let value := (Expr.decimal text).decimalValue?
    (value = none ↔ 2 ^ 96 - 1 / 2 ≤ |x|) ∧
      (∀ d, value = some d → d.mantissa < 2 ^ 96 ∧ d.scale ≤ 28 ∧ |d.toRat - x| ≤ 1 / 2 * (10 ^ d.scale)⁻¹ ∧
        (d.mantissa = 0 → d.negative = false)) ∧
      (fraction.length ≤ 28 → allDigits text.toList < 2 ^ 96 →
        ∃ d, value = some d ∧ d.toRat = x ∧ d.scale = fraction.length) := by
  obtain ⟨negative, whole, fraction, hwhole, hfraction, htext⟩ := exists_parts_of_isDecimal h
  have hpoint : ∀ c ∈ ('.' :: fraction).head?, c.isDigit = false := by simp
  have hnonneg : 0 ≤ Nat.ofDigitChars 10 whole 0 + fractionValue fraction :=
    add_nonneg (Nat.cast_nonneg _) (fractionValue_nonneg fraction)
  have hreads := Decimal.reads_number hwhole hfraction
  rw [decimalValue?_of_parts hwhole hfraction htext, htext, exactValue_minus hwhole hpoint,
    fractionDigits_minus hwhole hpoint, allDigits_minus hwhole hpoint, List.tail_cons]
  dsimp only
  rw [abs_signOf_mul, abs_of_nonneg hnonneg]
  refine ⟨hreads.finish_eq_none_iff negative, fun d hd => hreads.of_finish hd, fun hscale hall => ?_⟩
  rw [Decimal.foldlM_number_of_fits hwhole hfraction hall hscale, Option.bind_some,
    Decimal.Partial.finish_eq negative rfl]
  refine ⟨_, rfl, ?_, rfl⟩
  rw [Decimal.toRat_signed, Nat.ofDigitChars_append, ofDigitChars_append_div]

/-- A number with 29 digits that are the largest mantissa, and one more that rounds it up: the last two digits are given
up, and the value is less than half a unit away. -/
theorem decimalValue?_decimal_carry :
    let text := "-7.92281625142643375935439503355"
    let d : Decimal := ⟨true, 7922816251426433759354395034, 27⟩
    IsDecimal text.toList ∧ (Expr.decimal text).decimalValue? = some d ∧
      |d.toRat - exactValue text.toList| ≤ 1 / 2 * (10 ^ 27)⁻¹ := by
  intro text d
  have htext : IsDecimal text.toList :=
    ⟨['-', '7'], "92281625142643375935439503355".toList, ⟨['7'], by decide, .inr rfl⟩,
      List.all_eq_true.mp (by decide), by decide⟩
  have hvalue : (Expr.decimal text).decimalValue? = some d := by decide +kernel
  obtain ⟨-, -, habs, -⟩ := (decimalValue?_decimal text htext).2.1 d hvalue
  exact ⟨htext, hvalue, habs⟩

/-! ### Integer literals -/

/-- The member of an object of a given name. -/
def jsonMember? (name : String) : Json → Option Json
  | .object members => members.lookup name
  | _ => none

section Integer

variable {text : String} {negative : Bool} {ds : List Char}

/-- The value of an integer literal as a decimal. -/
theorem decimalValue?_integer (hds : IsDigits ds) (htext : text.toList = minus negative ++ ds) :
    (Expr.integer text).decimalValue? =
      if Nat.ofDigitChars 10 ds 0 < Decimal.mantissaLimit then
        some ⟨negative && Nat.ofDigitChars 10 ds 0 != 0, Nat.ofDigitChars 10 ds 0, 0⟩
      else none := by
  have htext' : text.toList = minus negative ++ (ds ++ []) := by rw [htext, List.append_nil]
  have hread : Decimal.ofText? text =
      (ds.foldlM Decimal.Partial.read Decimal.Partial.start).bind (Decimal.Partial.finish negative) := by
    rw [Decimal.ofText?_eq hds htext', List.append_nil]
  rw [decimalValue?, dropFinalPoint_of_digits htext hds.1 hds.2, hread]
  by_cases hlt : Nat.ofDigitChars 10 ds 0 < Decimal.mantissaLimit
  · rw [if_pos hlt, Decimal.Partial.foldlM_of_fits hds.2 rfl hlt (fun h => by cases h), Decimal.after_whole hds]
    rfl
  · rw [if_neg hlt, Decimal.Partial.foldlM_of_overflow hds.2 rfl rfl (by decide) (Nat.not_lt.mp hlt)]
    rfl

/-- The value of an integer literal as an integer. -/
theorem integerValue?_integer (hds : IsDigits ds) (htext : text.toList = minus negative ++ ds) :
    (Expr.integer text).integerValue? =
      inWord64? (if negative then -Nat.ofDigitChars 10 ds 0 else Nat.ofDigitChars 10 ds 0) := by
  have hsplit : splitSign text.toList = (negative, ds) := by
    rw [htext, ← List.append_nil ds, splitSign_minus hds]
  have hnatural : natural? ds = some (Nat.ofDigitChars 10 ds 0) :=
    if_pos ⟨hds.1, List.all_eq_true.mpr hds.2⟩
  rw [integerValue?, integer?, hsplit]
  dsimp only
  rw [hnatural, Option.bind_some]

/-- The integer that an integer literal is written for. -/
theorem signedDigits_integer (hds : IsDigits ds) (htext : text.toList = minus negative ++ ds) :
    signedDigits text.toList = if negative then -(Nat.ofDigitChars 10 ds 0 : Int) else Nat.ofDigitChars 10 ds 0 := by
  have htext' : text.toList = minus negative ++ (ds ++ []) := by rw [htext, List.append_nil]
  rw [htext', signedDigits, hasMinus_minus hds, allDigits_minus hds (by simp), List.tail_nil, List.append_nil]

/-- The magnitude of an integer is the number of its digits. -/
theorem abs_signed (n : Nat) : |if negative then -(n : Int) else n| = n := by
  cases negative <;> simp

/-- A decimal without fraction digits is an integer. -/
theorem toRat_integer (n : Nat) :
    Decimal.toRat ⟨negative && n != 0, n, 0⟩ = ((if negative then -(n : Int) else n : Int) : ℚ) := by
  rw [Decimal.toRat_signed]
  cases negative <;> simp [signOf]

end Integer

/-- The value that the JSON of an integer literal shows. -/
theorem jsonMember?_integer (text : String) :
    jsonMember? "value" (Expr.integer text).toJson = some (valueJson (.integer text)) := by
  rw [toJson]
  rfl

/-- A number is shown as `null` just if it has no value at all. -/
theorem valueJson_eq_null_iff (e : Expr) : valueJson e = .null ↔ e.integerValue? = none ∧ e.decimalValue? = none := by
  unfold valueJson
  cases e.integerValue? with
  | some n => simp
  | none => cases e.decimalValue? <;> simp

/-- A signed word of 64 bits holds the integers of this range. -/
theorem inWord64?_eq (n : Int) : inWord64? n = if -2 ^ 63 ≤ n ∧ n ≤ 2 ^ 63 - 1 then some n else none := by
  have hlimit : Int.ofNat (Nat.pow 2 63) = 2 ^ 63 := rfl
  have hrange : -2 ^ 63 ≤ n ∧ n < 2 ^ 63 ↔ -2 ^ 63 ≤ n ∧ n ≤ 2 ^ 63 - 1 := by omega
  rw [inWord64?, hlimit]
  simp only [hrange]

/-- **The readings of an integer literal agree.** As an integer it has its value if 64 bits hold it, and as a decimal if
96 bits hold its digits, and otherwise it has none. So an integer that is read is also read as a decimal, of the same
value, and is the value in the JSON of the literal. That value is `null` just if there is no decimal. -/
theorem integer_readings (text : String) (h : IsInteger text.toList) :
    let v := signedDigits text.toList
    let e := Expr.integer text
    (e.integerValue? = if -2 ^ 63 ≤ v ∧ v ≤ 2 ^ 63 - 1 then some v else none) ∧
      (|v| < 2 ^ 96 → ∃ d, e.decimalValue? = some d ∧ d.toRat = v ∧ d.scale = 0) ∧
      (2 ^ 96 ≤ |v| → e.decimalValue? = none) ∧
      (∀ n, e.integerValue? = some n →
        (∃ d, e.decimalValue? = some d ∧ d.toRat = n) ∧ jsonMember? "value" e.toJson = some (.integer n)) ∧
      (jsonMember? "value" e.toJson = some .null ↔ 2 ^ 96 ≤ |v|) := by
  intro v e
  obtain ⟨negative, ds, hds, htext⟩ := exists_minus_of_isInteger h
  have hv : v = if negative then -(Nat.ofDigitChars 10 ds 0 : Int) else Nat.ofDigitChars 10 ds 0 :=
    signedDigits_integer hds htext
  have habs : |v| = Nat.ofDigitChars 10 ds 0 := by rw [hv, abs_signed]
  have hinteger : e.integerValue? = if -2 ^ 63 ≤ v ∧ v ≤ 2 ^ 63 - 1 then some v else none := by
    rw [integerValue?_integer hds htext, ← hv, inWord64?_eq]
  have hdecimal := decimalValue?_integer hds htext
  have hsome : |v| < 2 ^ 96 → ∃ d, e.decimalValue? = some d ∧ d.toRat = v ∧ d.scale = 0 := by
    intro hlt
    have hfits : Nat.ofDigitChars 10 ds 0 < Decimal.mantissaLimit := by
      rw [habs] at hlt
      exact_mod_cast hlt
    rw [if_pos hfits] at hdecimal
    exact ⟨_, hdecimal, by rw [toRat_integer, hv], rfl⟩
  have hnone : 2 ^ 96 ≤ |v| → e.decimalValue? = none := by
    intro hge
    have hlarge : ¬ Nat.ofDigitChars 10 ds 0 < Decimal.mantissaLimit := by
      rw [habs] at hge
      rw [not_lt]
      exact_mod_cast hge
    rw [hdecimal, if_neg hlarge]
  have hrange : ∀ n, e.integerValue? = some n → n = v ∧ |v| < 2 ^ 96 := by
    intro n hn
    rw [hinteger] at hn
    split at hn
    · next hbounds =>
      cases hn
      refine ⟨rfl, ?_⟩
      rw [abs_lt]
      omega
    · cases hn
  refine ⟨hinteger, hsome, hnone, fun n hn => ?_, ?_⟩
  · obtain ⟨rfl, hlt⟩ := hrange n hn
    obtain ⟨d, hd, hvalue, -⟩ := hsome hlt
    refine ⟨⟨d, hd, hvalue⟩, ?_⟩
    rw [jsonMember?_integer, valueJson, hn]
  · rw [jsonMember?_integer, Option.some_inj, valueJson_eq_null_iff]
    constructor
    · rintro ⟨-, hnull⟩
      by_contra hlt
      obtain ⟨d, hd, -⟩ := hsome (not_le.mp hlt)
      rw [hnull] at hd
      cases hd
    · intro hge
      refine ⟨?_, hnone hge⟩
      by_contra hread
      obtain ⟨n, hn⟩ := Option.ne_none_iff_exists'.mp hread
      exact absurd hge (not_le.mpr (hrange n hn).2)

/-- The smallest integer of 64 bits, with zeros in front: the integer and the decimal are the same number. -/
theorem integer_readings_least :
    let text := "-0009223372036854775808"
    IsInteger text.toList ∧ (Expr.integer text).integerValue? = some (-9223372036854775808) ∧
      (∃ d, (Expr.integer text).decimalValue? = some d ∧ d.toRat = (-9223372036854775808 : Int)) ∧
      jsonMember? "value" (Expr.integer text).toJson = some (.integer (-9223372036854775808)) := by
  intro text
  have htext : IsInteger text.toList :=
    ⟨"0009223372036854775808".toList, ⟨by decide, List.all_eq_true.mp (by decide)⟩, .inr (by decide)⟩
  have hread : (Expr.integer text).integerValue? = some (-9223372036854775808) := by decide +kernel
  obtain ⟨hdecimal, hjson⟩ := (integer_readings text htext).2.2.2.1 _ hread
  exact ⟨htext, hread, hdecimal, hjson⟩

end Expr

end FilterLang
