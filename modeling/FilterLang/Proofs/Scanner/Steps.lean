import FilterLang.Proofs.Lexeme.Form
import FilterLang.Scanner.Lemmas
import FilterLang.Scanner.Parse

/-!
# The steps of a scanner

A scanner that looks for the next token takes characters off the front of what it has to read, and does nothing else
(`exists_next_eq_skip`): the blanks at hand, and the characters of the lexeme behind them or of a string that is never
closed. `Turn` lists the ways. A string that is never closed takes all that is left of the text, so a scanner that
finds no token is at the end of its text (`tokens_of_next`). A scanner is always somewhere in its text, and what it has
to read is what is left there (`On.next`).
-/

namespace FilterLang.Scanner

variable {s : Scanner} {c : Char} {cs text : List Char} {offset n : Nat}

/-- The scanner after `n` more characters. -/
def skip (n : Nat) (s : Scanner) : Scanner := ⟨s.offset, s.position + n, s.rest.drop n⟩

@[simp] theorem offset_skip : (s.skip n).offset = s.offset := rfl

@[simp] theorem position_skip : (s.skip n).position = s.position + n := rfl

@[simp] theorem rest_skip : (s.skip n).rest = s.rest.drop n := rfl

@[simp] theorem skip_zero : s.skip 0 = s := rfl

theorem skip_skip (m n : Nat) : (s.skip m).skip n = s.skip (m + n) := by
  simp [skip, Nat.add_assoc]

/-- The scanner at the end of the same text. -/
def exhausted (s : Scanner) : Scanner := s.skip s.rest.length

@[simp] theorem rest_exhausted (s : Scanner) : s.exhausted.rest = [] := by
  simp [exhausted]

/-- The end of the text stays where it is when characters are passed. -/
theorem exhausted_skip (h : n ≤ s.rest.length) : (s.skip n).exhausted = s.exhausted := by
  rw [exhausted, skip_skip, rest_skip, List.length_drop, Nat.add_sub_cancel' h, exhausted]

theorem exhausted_of_rest (h : s.rest = []) : s.exhausted = s := by
  rw [exhausted, h, List.length_nil, skip_zero]

/-- How many blanks are at hand. -/
def blanks (s : Scanner) : Nat := (s.rest.takeWhile Text.isBlank).length

theorem blanks_le (s : Scanner) : s.blanks ≤ s.rest.length := (List.takeWhile_sublist Text.isBlank).length_le

theorem skipBlanks_eq_skip (s : Scanner) : s.skipBlanks = s.skip s.blanks := by
  have h : (s.rest.takeWhile Text.isBlank ++ s.rest.dropWhile Text.isBlank).drop s.blanks =
      s.rest.dropWhile Text.isBlank := List.drop_left
  rw [List.takeWhile_append_dropWhile] at h
  rw [skipBlanks, skip, h, blanks]

theorem exhausted_skipBlanks (s : Scanner) : s.skipBlanks.exhausted = s.exhausted := by
  rw [skipBlanks_eq_skip, exhausted_skip s.blanks_le]

theorem skipLexeme_eq_skip (h : s.rest = c :: cs) (more : Nat) : s.skipLexeme cs more = s.skip (more + 1) := by
  simp only [skipLexeme, skip, h, List.drop_succ_cons, Scanner.mk.injEq, true_and, and_true]
  omega

/-! ### Looking for the next token -/

/-- The ways in which a scanner looks for its next token, and what comes of each. -/
inductive Turn (s : Scanner) : Option Token × Scanner → Prop
  /-- There is a lexeme behind the blanks. -/
  | lexeme {c : Char} {cs : List Char} {lexeme : Lexeme} {more : Nat} :
      s.skipBlanks.rest = c :: cs → Lexeme.read c cs = .lexeme lexeme more →
      Turn s (some (lexeme.token s.skipBlanks.location), s.skipBlanks.skip (more + 1))
  /-- There is a string without an end. -/
  | unterminated {c : Char} {cs : List Char} {dangling : Bool} {more : Nat} :
      s.skipBlanks.rest = c :: cs → Lexeme.read c cs = .unterminated dangling more →
      Turn s (none, s.skipBlanks.skip (more + 1))
  /-- There are blanks only. -/
  | finished : s.skipBlanks.rest = [] → Turn s (none, s.skipBlanks)

theorem turn_next (s : Scanner) : s.Turn s.next := by
  unfold next
  have hfinds := s.finds_step
  generalize s.step = found at hfinds ⊢
  cases hfinds with
  | lexeme hrest hread =>
    dsimp only
    rw [skipLexeme_eq_skip hrest]
    exact .lexeme hrest hread
  | unterminated hrest hread =>
    dsimp only
    rw [skipLexeme_eq_skip hrest]
    exact .unterminated hrest hread
  | finished hrest => exact .finished hrest

/-- A lexeme is no longer than the text it is read from. -/
theorem more_le_of_read (hrest : s.skipBlanks.rest = c :: cs) {lexeme : Lexeme} {more : Nat}
    (hread : Lexeme.read c cs = .lexeme lexeme more) : s.blanks + (more + 1) ≤ s.rest.length := by
  obtain ⟨l, k, rfl, rfl, -⟩ := Lexeme.formed_of_read (not_isBlank_of_skipBlanks hrest) hread
  have hlength := congrArg List.length hrest
  rw [skipBlanks_eq_skip, rest_skip, List.length_drop, List.length_cons, List.length_append] at hlength
  omega

/-- A string that is never closed is as long as the text it is read from. -/
theorem more_eq_of_read_unterminated (hrest : s.skipBlanks.rest = c :: cs) {dangling : Bool} {more : Nat}
    (hread : Lexeme.read c cs = .unterminated dangling more) : more + 1 = s.skipBlanks.rest.length := by
  rw [hrest, List.length_cons, Lexeme.more_of_read_unterminated hread]

/-- Without a token, all that is left has been passed. -/
theorem Turn.eq_exhausted {rest : Scanner} (h : s.Turn (none, rest)) : rest = s.exhausted := by
  rw [← exhausted_skipBlanks]
  cases h with
  | unterminated hrest hread => rw [more_eq_of_read_unterminated hrest hread, exhausted]
  | finished hrest => rw [exhausted_of_rest hrest]

/-- Looking for the next token takes characters off the front of what is left. -/
theorem exists_next_eq_skip (s : Scanner) : ∃ n ≤ s.rest.length, s.next.2 = s.skip n := by
  have h := s.turn_next
  generalize s.next = found at h ⊢
  rcases found with ⟨_ | t, rest⟩
  · exact ⟨_, Nat.le_refl _, h.eq_exhausted⟩
  · cases h with
    | lexeme hrest hread =>
      rw [skipBlanks_eq_skip, skip_skip]
      exact ⟨_, more_le_of_read hrest hread, rfl⟩

theorem next_offset_eq (s : Scanner) : s.next.2.offset = s.offset := by
  obtain ⟨n, -, hnext⟩ := s.exists_next_eq_skip
  rw [hnext, offset_skip]

/-- What is passed and what is left are the whole text. -/
theorem next_length_eq (s : Scanner) :
    s.next.2.position + s.next.2.rest.length = s.position + s.rest.length := by
  obtain ⟨n, hn, hnext⟩ := s.exists_next_eq_skip
  rw [hnext, position_skip, rest_skip, List.length_drop]
  omega

/-- A token that is found is found by a step. -/
theorem exists_step_of_next {t : Token} {rest : Scanner} (h : s.next = (some t, rest)) :
    ∃ shorter, s.step = .token t rest shorter := by
  unfold next at h
  split at h
  · rename_i shorter hstep
    cases h
    exact ⟨shorter, hstep⟩
  · cases h
  · cases h

/-- Fewer characters are left after a token. -/
theorem length_lt_of_next {t : Token} {rest : Scanner} (h : s.next = (some t, rest)) :
    rest.rest.length < s.rest.length := by
  obtain ⟨shorter, -⟩ := exists_step_of_next h
  exact shorter

/-- A token that is found is the first of those that are left. -/
theorem scan_of_next {t : Token} {rest : Scanner} (h : s.next = (some t, rest)) : s.scan = rest.scan.cons t := by
  obtain ⟨shorter, hstep⟩ := exists_step_of_next h
  exact step_token hstep

/-- If there is no token, none is left, and the scanner is at the end of its text. -/
theorem tokens_of_next {rest : Scanner} (h : s.next = (none, rest)) : s.scan.tokens = [] ∧ rest = s.exhausted := by
  have hturn := s.turn_next
  rw [h] at hturn
  refine ⟨?_, hturn.eq_exhausted⟩
  unfold next at h
  split at h
  · cases h
  · rename_i hstep
    rw [step_unterminated hstep]
  · rename_i hstep
    rw [step_finished hstep]

theorem exhausted_next (s : Scanner) : s.next.2.exhausted = s.exhausted := by
  obtain ⟨n, hn, hnext⟩ := s.exists_next_eq_skip
  rw [hnext, exhausted_skip hn]

/-- Draining a scanner leaves it at the end of its text. -/
theorem drain_scanner (s : Scanner) : s.drain.value.2 = s.exhausted := by
  fun_induction drain s with
  | case1 s t rest shorter hstep ts last records hdrain ih =>
    have hnext : s.next = (some t, rest) := by rw [next, hstep]
    rw [hdrain] at ih
    rw [← s.exhausted_next, hnext]
    exact ih
  | case2 s start dangling rest hstep =>
    have hnext : s.next = (none, rest) := by rw [next, hstep]
    exact (tokens_of_next hnext).2
  | case3 s rest hstep =>
    have hnext : s.next = (none, rest) := by rw [next, hstep]
    exact (tokens_of_next hnext).2

theorem drain_value (s : Scanner) : s.drain.value = (s.scan.tokens, s.exhausted) :=
  Prod.ext s.drain_tokens s.drain_scanner

/-- A reading takes the tokens that are left. -/
theorem value_parse (s : Scanner) : s.parse.value = parseTokens s.offset s.scan.tokens := by
  simp [Scanner.parse, drain_value]

theorem value_parse_ofText (offset : Nat) (text : String) : (ofText offset text).parse.value = parseAt offset text :=
  value_parse _

/-! ### The text of a scanner -/

/-- The scanner is somewhere in the given text, and has to read what is left there. -/
structure On (offset : Nat) (text : List Char) (s : Scanner) : Prop where
  offset_eq : s.offset = offset
  position_le : s.position ≤ text.length
  rest_eq : s.rest = text.drop s.position

theorem on_ofText (offset : Nat) (text : String) : (ofText offset text).On offset text.toList :=
  ⟨rfl, Nat.zero_le _, rfl⟩

namespace On

theorem length_eq (h : s.On offset text) : s.position + s.rest.length = text.length := by
  have := h.position_le
  rw [h.rest_eq, List.length_drop]
  omega

theorem skip (h : s.On offset text) (hn : n ≤ s.rest.length) : (s.skip n).On offset text := by
  refine ⟨h.offset_eq, ?_, ?_⟩
  · have := h.length_eq
    simp only [position_skip]
    omega
  · rw [rest_skip, h.rest_eq, List.drop_drop, position_skip]

theorem skipBlanks (h : s.On offset text) : s.skipBlanks.On offset text := by
  rw [skipBlanks_eq_skip]
  exact h.skip s.blanks_le

/-- Looking for the next token does not leave the text. -/
theorem next (h : s.On offset text) : s.next.2.On offset text := by
  obtain ⟨n, hn, hnext⟩ := s.exists_next_eq_skip
  rw [hnext]
  exact h.skip hn

end On

end FilterLang.Scanner
