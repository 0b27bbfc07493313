import FilterLang.Text.CharClass

/-!
# How the character classes lie to each other

A blank belongs to no word, a digit belongs to words but begins none, and the characters that have a meaning of their
own belong to no word. The tables are compared range by range.
-/

namespace FilterLang

/-! ### Tables -/

/-- A code point of a table lies in one of its ranges. -/
theorem Unicode.exists_range_of_inRanges {table : List (Nat × Nat)} {n : Nat} (h : inRanges table n = true) :
    ∃ r ∈ table, r.1 ≤ n ∧ n ≤ r.2 := by
  induction table with
  | nil => cases h
  | cons r table ih =>
    rw [inRanges] at h
    split at h
    · next hn => exact ⟨r, List.mem_cons_self, of_decide_eq_true h, hn⟩
    · obtain ⟨r', hr, hn⟩ := ih h
      exact ⟨r', List.mem_cons_of_mem _ hr, hn⟩

/-- Tables whose ranges do not meet have no code point in common. -/
theorem Unicode.inRanges_eq_false {table table' : List (Nat × Nat)} {n : Nat}
    (hmeet : ∀ r ∈ table, ∀ r' ∈ table', r.2 < r'.1 ∨ r'.2 < r.1) (h : inRanges table n = true) :
    inRanges table' n = false := by
  rw [← Bool.not_eq_true]
  intro h'
  obtain ⟨r, hr, hn⟩ := exists_range_of_inRanges h
  obtain ⟨r', hr', hn'⟩ := exists_range_of_inRanges h'
  have := hmeet r hr r' hr'
  omega

namespace Text

/-- The ASCII digits. -/
def digits : List (Nat × Nat) := [(0x30, 0x39)]

theorem isDigit_iff_inRanges {c : Char} : c.isDigit = true ↔ Unicode.inRanges digits c.toNat = true := by
  rw [Char.isDigit_iff_toNat]
  simp only [digits, Unicode.inRanges]
  split <;> simp <;> omega

/-! ### Blanks -/

theorem isAlphabetic_of_isBlank {c : Char} (h : isBlank c = true) : isAlphabetic c = false :=
  Unicode.inRanges_eq_false (by decide +kernel) h

theorem isNumeric_of_isBlank {c : Char} (h : isBlank c = true) : isNumeric c = false :=
  Unicode.inRanges_eq_false (by decide +kernel) h

/-- A blank belongs to no word. -/
theorem inWord_of_isBlank {c : Char} (h : isBlank c = true) : inWord c = false := by
  have hne : c ≠ '_' := by
    rintro rfl
    exact absurd h (by decide)
  simp [inWord, isAlphabetic_of_isBlank h, isNumeric_of_isBlank h, hne]

/-! ### Words -/

theorem inWord_of_startsWord {c : Char} (h : startsWord c = true) : inWord c = true := by
  simp only [startsWord, Bool.or_eq_true] at h
  rcases h with h | h <;> simp [inWord, h]

theorem not_isBlank_of_inWord {c : Char} (h : inWord c = true) : isBlank c = false := by
  rw [← Bool.not_eq_true]
  intro hb
  rw [inWord_of_isBlank hb] at h
  cases h

/-! ### Digits -/

theorem isNumeric_of_isDigit {c : Char} (h : c.isDigit = true) : isNumeric c = true := by
  have hc : 0x30 ≤ c.toNat ∧ c.toNat ≤ 0x39 := Char.isDigit_iff_toNat.mp h
  have hfirst : Unicode.numeric = (0x30, 0x39) :: Unicode.numeric.tail := rfl
  rw [isNumeric, hfirst, Unicode.inRanges, if_pos hc.2]
  exact decide_eq_true hc.1

theorem isAlphabetic_of_isDigit {c : Char} (h : c.isDigit = true) : isAlphabetic c = false :=
  Unicode.inRanges_eq_false (by decide +kernel) (isDigit_iff_inRanges.mp h)

/-- A digit may stand in a word. -/
theorem inWord_of_isDigit {c : Char} (h : c.isDigit = true) : inWord c = true := by
  simp [inWord, isNumeric_of_isDigit h]

/-- A digit begins no word. -/
theorem startsWord_of_isDigit {c : Char} (h : c.isDigit = true) : startsWord c = false := by
  have hne : c ≠ '_' := by
    rintro rfl
    exact absurd h (by decide)
  simp [startsWord, isAlphabetic_of_isDigit h, hne]

end Text

end FilterLang
