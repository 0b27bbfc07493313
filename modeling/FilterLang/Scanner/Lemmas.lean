import FilterLang.Scanner.Basic

/-!
# Scanners and scans

Going through a text step by step finds what scanning it at once finds: draining a scanner gives the tokens of the scan
of what it still has to read (`drain_tokens`), and one step gives the first of them (`step_token`), or finds that there
is none (`step_finished`, `step_unterminated`). `Finds` lists the ways in which a step goes.
-/

namespace FilterLang

namespace Scan

/-- Blanks before a text only shift it. -/
theorem ofChars_skip (position : Nat) (cs : List Char) :
    ofChars position cs = ofChars (position + (cs.takeWhile Text.isBlank).length) (cs.dropWhile Text.isBlank) := by
  induction cs generalizing position with
  | nil => rfl
  | cons c cs ih =>
    by_cases h : Text.isBlank c
    · rw [ofChars]
      simp only [h, if_true, List.takeWhile_cons_of_pos, List.dropWhile_cons_of_pos, List.length_cons]
      rw [ih]
      congr 1
      omega
    · simp [h]

end Scan

namespace Scanner

/-- The scan of what a scanner still has to read. -/
def scan (s : Scanner) : Scan := Scan.ofChars s.location s.rest

theorem scan_skipBlanks (s : Scanner) : s.skipBlanks.scan = s.scan := by
  rw [scan, scan, Scan.ofChars_skip s.location]
  simp [skipBlanks, location, Nat.add_assoc]

/-- After the blanks have been skipped, the next character is none. -/
theorem not_isBlank_of_skipBlanks {s : Scanner} {c : Char} {cs : List Char} (h : s.skipBlanks.rest = c :: cs) :
    Text.isBlank c = false := by
  have := List.head?_dropWhile_not Text.isBlank s.rest
  rw [show s.rest.dropWhile Text.isBlank = c :: cs from h] at this
  simpa using this

/-- The ways in which a step goes, by what stands behind the blanks, and what it finds. -/
inductive Finds (s : Scanner) : Step s.rest.length → Prop
  /-- A lexeme. -/
  | lexeme {c : Char} {cs : List Char} {lexeme : Lexeme} {more : Nat} (hrest : s.skipBlanks.rest = c :: cs) :
      Lexeme.read c cs = .lexeme lexeme more →
      Finds s (.token (lexeme.token s.skipBlanks.location) (s.skipBlanks.skipLexeme cs more)
        (skipLexeme_length_lt more hrest))
  /-- A string without an end. -/
  | unterminated {c : Char} {cs : List Char} {dangling : Bool} {more : Nat} :
      s.skipBlanks.rest = c :: cs → Lexeme.read c cs = .unterminated dangling more →
      Finds s (.unterminated s.skipBlanks.location dangling (s.skipBlanks.skipLexeme cs more))
  /-- Nothing. -/
  | finished : s.skipBlanks.rest = [] → Finds s (.finished s.skipBlanks)

theorem finds_step (s : Scanner) : s.Finds s.step := by
  unfold step
  split
  · rename_i hrest
    exact .finished hrest
  · rename_i c cs hrest
    split
    · rename_i hread
      exact .lexeme hrest hread
    · rename_i hread
      exact .unterminated hrest hread

/-- A step that finds a token finds the first of the scan, and leaves the others. -/
theorem step_token {s next : Scanner} {t : Token} {shorter : next.rest.length < s.rest.length}
    (h : s.step = .token t next shorter) : s.scan = next.scan.cons t := by
  have hfinds := s.finds_step
  rw [h] at hfinds
  cases hfinds with
  | lexeme hrest hread =>
    rw [← scan_skipBlanks, scan, hrest, Scan.ofChars]
    simp only [not_isBlank_of_skipBlanks hrest, hread]
    rw [if_neg (by decide)]
    congr 2
    simp only [location, skipLexeme]
    omega

/-- A step that comes upon a string without an end finds the end of the scan. -/
theorem step_unterminated {s next : Scanner} {start : Nat} {dangling : Bool}
    (h : s.step = .unterminated start dangling next) : s.scan = ⟨[], .unterminated start dangling⟩ := by
  have hfinds := s.finds_step
  rw [h] at hfinds
  cases hfinds with
  | unterminated hrest hread =>
    rw [← scan_skipBlanks, scan, hrest, Scan.ofChars]
    simp [not_isBlank_of_skipBlanks hrest, hread]

/-- A step that finds blanks only finds the end of the scan. -/
theorem step_finished {s next : Scanner} (h : s.step = .finished next) : s.scan = ⟨[], .complete⟩ := by
  have hfinds := s.finds_step
  rw [h] at hfinds
  cases hfinds with
  | finished hrest => rw [← scan_skipBlanks, scan, hrest, Scan.ofChars]

/-- Draining a scanner gives the tokens of the scan. -/
theorem drain_tokens (s : Scanner) : s.drain.value.1 = s.scan.tokens := by
  fun_induction drain s with
  | case1 s t next shorter hstep ts last records hdrain ih =>
    rw [hdrain] at ih
    rw [step_token hstep, Scan.cons, ← ih]
  | case2 s start dangling next hstep => rw [step_unterminated hstep]
  | case3 s next hstep => rw [step_finished hstep]

end Scanner

end FilterLang
