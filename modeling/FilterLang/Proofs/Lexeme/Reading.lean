import FilterLang.Lexeme.Basic
import FilterLang.Proofs.Text.Spelling

/-!
# How a lexeme is read

What comes of reading, by what stands at the front: a string character by character, and a lexeme by its first
character (`read_cases`). Only a string that is never closed is no lexeme (`read_eq_unterminated_iff`).
-/

namespace FilterLang

/-! ### Strings -/

namespace Quoted

theorem read_plain {c : Char} (hquote : c ≠ '\'') (hslash : c ≠ '\\') (cs : List Char) :
    read (c :: cs) = (read cs).cons c 1 := by
  simp [read, hslash]

theorem read_escape {letter c : Char} (h : Text.unescape? letter = some c) (cs : List Char) :
    read ('\\' :: letter :: cs) = (read cs).cons c 2 := by
  simp [read, h]

theorem read_badEscape {letter : Char} (h : Text.unescape? letter = none) (cs : List Char) :
    read ('\\' :: letter :: cs) = .badEscape letter 0 := by
  simp [read, h]

/-- A backslash that is neither the last character nor in front of one is none. -/
theorem ne_backslash {c : Char} {cs : List Char} (hlast : c = '\\' → cs = [] → False)
    (hslash : ∀ letter ds, c = '\\' → cs = letter :: ds → False) : c ≠ '\\' := by
  intro hc
  cases cs with
  | nil => exact hlast hc rfl
  | cons letter ds => exact hslash letter ds hc rfl

end Quoted

/-! ### Lexemes -/

namespace Lexeme

variable {c : Char} {cs : List Char}

/-- What is read at the front of a text, by its first character. -/
theorem read_cases (c : Char) (cs : List Char) :
    (c = '@' ∧ read c cs = readName cs) ∨
    (c ≠ '@' ∧ Text.startsWord c = true ∧ read c cs = readWord c cs) ∨
    ((c.isDigit = true ∨ c = '-' ∧ cs.head?.any Char.isDigit = true) ∧ read c cs = readNumber c cs) ∨
    (c = '\'' ∧ read c cs = readString cs) ∨
    (∃ kind, punctuation? c = some kind ∧ read c cs = .lexeme (.plain kind [c]) 0) ∨
    ((c ≠ '@' ∧ Text.startsWord c = false ∧ c.isDigit = false ∧ ¬(c = '-' ∧ cs.head?.any Char.isDigit = true) ∧
      c ≠ '\'' ∧ punctuation? c = none) ∧ read c cs = .lexeme (.stray c) 0) := by
  by_cases hat : c = '@'
  · refine .inl ⟨hat, ?_⟩
    rw [read, if_pos hat]
  by_cases hstart : Text.startsWord c = true
  · refine .inr (.inl ⟨hat, hstart, ?_⟩)
    rw [read, if_neg hat, if_pos hstart]
  by_cases hdigit : c.isDigit = true
  · refine .inr (.inr (.inl ⟨.inl hdigit, ?_⟩))
    rw [read, if_neg hat, if_neg hstart, if_pos hdigit]
  by_cases hminus : c = '-' ∧ cs.head?.any Char.isDigit = true
  · refine .inr (.inr (.inl ⟨.inr hminus, ?_⟩))
    rw [read, if_neg hat, if_neg hstart, if_neg hdigit, if_pos hminus]
  by_cases hquote : c = '\''
  · refine .inr (.inr (.inr (.inl ⟨hquote, ?_⟩)))
    rw [read, if_neg hat, if_neg hstart, if_neg hdigit, if_neg hminus, if_pos hquote]
  cases hkind : punctuation? c with
  | some kind =>
    refine .inr (.inr (.inr (.inr (.inl ⟨kind, rfl, ?_⟩))))
    rw [read, if_neg hat, if_neg hstart, if_neg hdigit, if_neg hminus, if_neg hquote, hkind]
  | none =>
    refine .inr (.inr (.inr (.inr (.inr ⟨⟨hat, ?_, ?_, hminus, hquote, rfl⟩, ?_⟩))))
    · exact Bool.eq_false_iff.mpr hstart
    · exact Bool.eq_false_iff.mpr hdigit
    · rw [read, if_neg hat, if_neg hstart, if_neg hdigit, if_neg hminus, if_neg hquote, hkind]

theorem read_quote (cs : List Char) : read '\'' cs = readString cs := by
  have hstart : Text.startsWord '\'' = false := by decide
  simp [read, hstart]

/-! ### Strings that are never closed -/

theorem readName_ne_unterminated (cs : List Char) (dangling : Bool) (more : Nat) :
    readName cs ≠ .unterminated dangling more := by
  unfold readName
  split <;> simp

theorem readNumber_ne_unterminated (c : Char) (cs : List Char) (dangling : Bool) (more : Nat) :
    readNumber c cs ≠ .unterminated dangling more := by
  unfold readNumber
  split <;> simp

theorem readString_eq_unterminated_iff {dangling : Bool} {more : Nat} :
    readString cs = .unterminated dangling more ↔ Quoted.read cs = .unclosed dangling more := by
  unfold readString
  split <;> simp_all

/-- Only what begins with a quote is no lexeme, and only if the string is never closed. -/
theorem read_eq_unterminated_iff {dangling : Bool} {more : Nat} :
    read c cs = .unterminated dangling more ↔ c = '\'' ∧ Quoted.read cs = .unclosed dangling more := by
  constructor
  · intro h
    rcases read_cases c cs with ⟨-, hr⟩ | ⟨-, -, hr⟩ | ⟨-, hr⟩ | ⟨hc, hr⟩ | ⟨kind, -, hr⟩ | ⟨-, hr⟩ <;> rw [hr] at h
    · exact absurd h (readName_ne_unterminated cs dangling more)
    · cases h
    · exact absurd h (readNumber_ne_unterminated c cs dangling more)
    · exact ⟨hc, readString_eq_unterminated_iff.mp h⟩
    · cases h
    · cases h
  · rintro ⟨rfl, h⟩
    rw [read_quote]
    exact readString_eq_unterminated_iff.mpr h

end Lexeme

end FilterLang
