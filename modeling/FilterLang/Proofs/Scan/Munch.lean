import FilterLang.Proofs.Lexeme.Form
import FilterLang.Scan

/-!
# The lexemes of a text

A text is blanks and a lexeme, again and again, and then blanks and possibly a string that is never closed. `Munch` says
so without saying how the text is scanned: each lexeme has one of the forms, so it is not empty (`Lexeme.Form.ne_nil`),
and is as long as its form lets it be in front of what follows. Scanning finds this decomposition, and there is no other
(`munch_iff_tokensAt`).
-/

namespace FilterLang

open FilterLang.Text

namespace Scan

/-! ### One step of a scan -/

section Steps

variable {c : Char} {cs : List Char}

theorem ofChars_nil (position : Nat) : ofChars position [] = ⟨[], .complete⟩ := by rw [ofChars]

theorem ofChars_blank (h : isBlank c = true) (position : Nat) (cs : List Char) :
    ofChars position (c :: cs) = ofChars (position + 1) cs := by
  rw [ofChars, if_pos h]

/-- Blanks in front of a text only shift it. -/
theorem ofChars_blanks {w : List Char} (hw : ∀ c ∈ w, isBlank c = true) (position : Nat) (cs : List Char) :
    ofChars position (w ++ cs) = ofChars (position + w.length) cs := by
  induction w generalizing position with
  | nil => rfl
  | cons c w ih =>
    rw [List.forall_mem_cons] at hw
    rw [List.cons_append, ofChars_blank hw.1, ih hw.2, List.length_cons]
    congr 1
    omega

theorem ofChars_lexeme {lexeme : Lexeme} {more : Nat} (hblank : isBlank c = false)
    (h : Lexeme.read c cs = .lexeme lexeme more) (position : Nat) :
    ofChars position (c :: cs) =
      (ofChars (position + 1 + more) (cs.drop more)).cons (lexeme.token position) := by
  rw [ofChars, if_neg (by simp [hblank]), h]

theorem ofChars_unterminated {dangling : Bool} {more : Nat} (hblank : isBlank c = false)
    (h : Lexeme.read c cs = .unterminated dangling more) (position : Nat) :
    ofChars position (c :: cs) = ⟨[], .unterminated position dangling⟩ := by
  rw [ofChars, if_neg (by simp [hblank]), h]

end Steps

/-! ### The lexemes of a text -/

/-- The characters, of which the first has the given position, are made up of lexemes with these tokens, and end so. -/
inductive Munch : Nat → List Char → Scan → Prop where
  /-- Blanks are left. -/
  | blanks {position : Nat} {w : List Char} : (∀ c ∈ w, isBlank c = true) → Munch position w ⟨[], .complete⟩
  /-- Blanks are left, and a string that is never closed. -/
  | unclosed {position : Nat} {w body value : List Char} :
      (∀ c ∈ w, isBlank c = true) → Quoted.Body body value →
        Munch position (w ++ '\'' :: body) ⟨[], .unterminated (position + w.length) false⟩
  /-- Blanks are left, and a string that is never closed and has a backslash at its end. -/
  | dangling {position : Nat} {w body value : List Char} :
      (∀ c ∈ w, isBlank c = true) → Quoted.Body body value →
        Munch position (w ++ '\'' :: (body ++ ['\\'])) ⟨[], .unterminated (position + w.length) true⟩
  /-- Blanks, a lexeme, and more. -/
  | lexeme {position : Nat} {w l k : List Char} {t : Token} {s : Scan} :
      (∀ c ∈ w, isBlank c = true) → Lexeme.Form l k (position + w.length) t →
        Munch (position + w.length + l.length) k s → Munch position (w ++ (l ++ k)) (s.cons t)

/-- One more blank in front. -/
theorem Munch.blank {position : Nat} {c : Char} {cs : List Char} {s : Scan} (hc : isBlank c = true)
    (h : Munch (position + 1) cs s) : Munch position (c :: cs) s := by
  have hlength : ∀ w : List Char, position + 1 + w.length = position + (c :: w).length := by
    intro w
    rw [List.length_cons]
    omega
  cases h with
  | blanks hw => exact .blanks (List.forall_mem_cons.mpr ⟨hc, hw⟩)
  | @unclosed _ w body value hw hbody =>
    rw [hlength w]
    exact .unclosed (w := c :: w) (List.forall_mem_cons.mpr ⟨hc, hw⟩) hbody
  | @dangling _ w body value hw hbody =>
    rw [hlength w]
    exact .dangling (w := c :: w) (List.forall_mem_cons.mpr ⟨hc, hw⟩) hbody
  | @lexeme _ w l k t s hw hform hrest =>
    rw [hlength w] at hform hrest
    exact .lexeme (w := c :: w) (List.forall_mem_cons.mpr ⟨hc, hw⟩) hform hrest

/-- More blanks in front. -/
theorem Munch.blanks_append {position : Nat} {w cs : List Char} {s : Scan} (h : Munch (position + w.length) cs s)
    (hw : ∀ c ∈ w, isBlank c = true) : Munch position (w ++ cs) s := by
  induction w generalizing position with
  | nil => exact h
  | cons c w ih =>
    rw [List.forall_mem_cons] at hw
    rw [List.length_cons, Nat.add_comm w.length, ← Nat.add_assoc] at h
    exact (ih h hw.2).blank hw.1

/-- Scanning finds the lexemes of a text. The induction is on the scan. -/
theorem munch_ofChars (position : Nat) (cs : List Char) : Munch position cs (ofChars position cs) := by
  fun_induction ofChars position cs with
  | case1 position => exact .blanks (by simp)
  | case2 position c cs hblank ih => exact ih.blank hblank
  | case3 position c cs hblank lexeme more hread ih =>
    obtain ⟨l, k, rfl, rfl, hform⟩ := Lexeme.formed_of_read (by simpa using hblank) hread
    have hposition : position + 1 + l.length = position + (c :: l).length := by
      rw [List.length_cons]
      omega
    rw [List.drop_left, hposition] at ih
    rw [List.drop_left, hposition]
    exact .lexeme (w := []) (by simp) (hform position) ih
  | case4 position c cs hblank dangling more hread =>
    obtain ⟨rfl, hquoted⟩ := Lexeme.read_eq_unterminated_iff.mp hread
    obtain ⟨-, body, value, hbody, rfl⟩ := Quoted.read_eq_unclosed_iff.mp hquoted
    cases dangling with
    | false =>
      rw [if_neg Bool.false_ne_true, List.append_nil]
      exact .unclosed (w := []) (by simp) hbody
    | true => exact .dangling (w := []) (by simp) hbody

theorem ofChars_unclosed {w body value : List Char} (hw : ∀ c ∈ w, isBlank c = true) (hbody : Quoted.Body body value)
    (position : Nat) (dangling : Bool) :
    ofChars position (w ++ '\'' :: (body ++ if dangling then ['\\'] else [])) =
      ⟨[], .unterminated (position + w.length) dangling⟩ := by
  have hread := Lexeme.read_eq_unterminated_iff.mpr ⟨rfl, hbody.read_unclosed dangling⟩
  rw [ofChars_blanks hw, ofChars_unterminated (by decide) hread]

/-- A text has the lexemes that scanning finds, and no others. -/
theorem Munch.ofChars_eq {position : Nat} {cs : List Char} {s : Scan} (h : Munch position cs s) :
    ofChars position cs = s := by
  induction h with
  | @blanks position w hw =>
    rw [← List.append_nil w, ofChars_blanks hw, ofChars_nil]
  | @unclosed position w body value hw hbody =>
    have := ofChars_unclosed hw hbody position false
    rwa [if_neg Bool.false_ne_true, List.append_nil] at this
  | @dangling position w body value hw hbody => exact ofChars_unclosed hw hbody position true
  | @lexeme position w l k t s hw hform _ ih =>
    obtain ⟨c, cs, lexeme, rfl, hblank, hread, rfl⟩ := hform.read
    rw [ofChars_blanks hw, List.cons_append, ofChars_lexeme hblank hread, List.drop_left, ← ih, List.length_cons]
    congr 2
    omega

/-- Every token of a text is that of a lexeme. -/
theorem exists_form {position : Nat} {cs : List Char} {t : Token} (ht : t ∈ (ofChars position cs).tokens) :
    ∃ l k position, Lexeme.Form l k position t := by
  have h : Munch position cs (ofChars position cs) := munch_ofChars position cs
  generalize ofChars position cs = s at h ht
  induction h with
  | lexeme _ hform _ ih =>
    rcases List.mem_cons.mp ht with rfl | ht
    · exact ⟨_, _, _, hform⟩
    · exact ih ht
  | _ => cases ht

/-- The tokens of a text are spelled as their kinds say. -/
theorem spelled {position : Nat} {cs : List Char} {t : Token} (ht : t ∈ (ofChars position cs).tokens) :
    Lexeme.Spelled t.kind t.value.toList := by
  obtain ⟨l, k, position, hform⟩ := exists_form ht
  exact hform.spelled

end Scan

/-- **The tokens of a text are those of its lexemes**: scanning a text finds its decomposition into blanks, lexemes and
possibly a string that is never closed, and there is no other. -/
theorem munch_iff_tokensAt (offset : Nat) (text : String) (ts : List Token) (ending : Ending) :
    Scan.Munch offset text.toList ⟨ts, ending⟩ ↔ tokensAt offset text = ts ∧ (scanAt offset text).ending = ending := by
  constructor
  · intro h
    have hscan : scanAt offset text = ⟨ts, ending⟩ := h.ofChars_eq
    rw [tokensAt, hscan]
    exact ⟨rfl, rfl⟩
  · rintro ⟨rfl, rfl⟩
    exact Scan.munch_ofChars offset text.toList

end FilterLang
