import FilterLang.Proofs.Text.CharClass
import Mathlib.Data.List.TakeWhile

/-!
# How names and numbers are spelled

A name is a letter or `_` and then letters, numerals and `_`. An integer is `-?[0-9]+` and a decimal `-?[0-9]+\.[0-9]*`.
-/

namespace FilterLang.Text

/-! ### Runs of characters -/

section Runs

variable {p : Char → Bool} {cs k : List Char}

/-- A text is a run of characters of a class, as long as can be, and the rest. -/
theorem exists_run (p : Char → Bool) (cs : List Char) :
    ∃ l k, cs = l ++ k ∧ (∀ c ∈ l, p c = true) ∧ ∀ c ∈ k.head?, p c = false := by
  refine ⟨cs.takeWhile p, cs.dropWhile p, List.takeWhile_append_dropWhile.symm, ?_, ?_⟩
  · exact List.all_eq_true.mp List.all_takeWhile
  · intro c hc
    have := List.head?_dropWhile_not p cs
    rw [hc] at this
    simpa using this

theorem takeWhile_run (hcs : ∀ c ∈ cs, p c = true) (hk : ∀ c ∈ k.head?, p c = false) :
    (cs ++ k).takeWhile p = cs ∧ (cs ++ k).dropWhile p = k := by
  rw [List.takeWhile_append_of_pos hcs, List.dropWhile_append_of_pos hcs]
  cases k with
  | nil => simp
  | cons c k => simp [hk c rfl]

/-- Where a run ends is told by its text. -/
theorem run_unique {cs' k' : List Char} (hcs : ∀ c ∈ cs, p c = true) (hk : ∀ c ∈ k.head?, p c = false)
    (hcs' : ∀ c ∈ cs', p c = true) (hk' : ∀ c ∈ k'.head?, p c = false) (h : cs ++ k = cs' ++ k') :
    cs = cs' ∧ k = k' := by
  obtain ⟨htake, hdrop⟩ := takeWhile_run hcs hk
  obtain ⟨htake', hdrop'⟩ := takeWhile_run hcs' hk'
  exact ⟨by rw [← htake, h, htake'], by rw [← hdrop, h, hdrop']⟩

end Runs

/-! ### Names and numbers -/

/-- A name. -/
def IsName : List Char → Prop
  | [] => False
  | c :: cs => startsWord c = true ∧ ∀ d ∈ cs, inWord d = true

instance : DecidablePred IsName
  | [] => inferInstanceAs (Decidable False)
  | c :: cs => decidable_of_iff (startsWord c = true ∧ cs.all inWord = true) (by rw [IsName, List.all_eq_true])

/-- One digit or more, and nothing else. -/
def IsDigits (cs : List Char) : Prop := cs ≠ [] ∧ ∀ d ∈ cs, d.isDigit = true

instance : DecidablePred IsDigits := fun cs =>
  decidable_of_iff (cs ≠ [] ∧ cs.all Char.isDigit = true) (by rw [IsDigits, List.all_eq_true])

/-- An integer: digits, and possibly a minus sign before them. -/
def IsInteger (cs : List Char) : Prop := ∃ ds, IsDigits ds ∧ (cs = ds ∨ cs = '-' :: ds)

/-- A decimal: an integer, a point, and possibly digits. -/
def IsDecimal (cs : List Char) : Prop :=
  ∃ whole fraction, IsInteger whole ∧ (∀ d ∈ fraction, d.isDigit = true) ∧ cs = whole ++ '.' :: fraction

theorem IsName.ne_nil {cs : List Char} (h : IsName cs) : cs ≠ [] := by
  rintro rfl
  exact h

theorem isInteger_cons_iff {c : Char} {cs : List Char} :
    IsInteger (c :: cs) ↔ (c.isDigit = true ∧ ∀ d ∈ cs, d.isDigit = true) ∨ c = '-' ∧ IsDigits cs := by
  constructor
  · rintro ⟨ds, hds, rfl | h⟩
    · exact Or.inl (by simpa using hds.2)
    · obtain ⟨rfl, rfl⟩ := List.cons.inj h
      exact Or.inr ⟨rfl, hds⟩
  · rintro (h | ⟨rfl, h⟩)
    · exact ⟨c :: cs, ⟨List.cons_ne_nil c cs, by simpa using h⟩, Or.inl rfl⟩
    · exact ⟨cs, h, Or.inr rfl⟩

theorem IsInteger.ne_nil {cs : List Char} (h : IsInteger cs) : cs ≠ [] := by
  obtain ⟨ds, hds, rfl | rfl⟩ := h
  · exact hds.1
  · exact List.cons_ne_nil _ _

/-- A number begins with no blank. -/
theorem IsInteger.not_isBlank {c : Char} {cs : List Char} (h : IsInteger (c :: cs)) : isBlank c = false := by
  rcases isInteger_cons_iff.mp h with ⟨hc, -⟩ | ⟨rfl, -⟩
  · exact not_isBlank_of_inWord (inWord_of_isDigit hc)
  · decide

/-- A decimal begins as an integer does. -/
theorem isDecimal_cons_iff {c : Char} {cs : List Char} :
    IsDecimal (c :: cs) ↔ ∃ whole fraction, IsInteger (c :: whole) ∧ (∀ d ∈ fraction, d.isDigit = true) ∧
      cs = whole ++ '.' :: fraction := by
  constructor
  · rintro ⟨whole, fraction, hw, hf, h⟩
    cases whole with
    | nil => exact absurd rfl hw.ne_nil
    | cons d whole =>
      obtain ⟨rfl, rfl⟩ := List.cons.inj h
      exact ⟨whole, fraction, hw, hf, rfl⟩
  · rintro ⟨whole, fraction, hw, hf, rfl⟩
    exact ⟨c :: whole, fraction, hw, hf, rfl⟩

theorem IsDecimal.ne_nil {cs : List Char} (h : IsDecimal cs) : cs ≠ [] := by
  obtain ⟨whole, fraction, -, -, rfl⟩ := h
  exact List.append_ne_nil_of_right_ne_nil whole (List.cons_ne_nil _ _)

theorem IsDecimal.not_isBlank {c : Char} {cs : List Char} (h : IsDecimal (c :: cs)) : isBlank c = false := by
  obtain ⟨whole, fraction, hwhole, -, -⟩ := isDecimal_cons_iff.mp h
  exact hwhole.not_isBlank

end FilterLang.Text
