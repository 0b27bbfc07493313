import FilterLang.Log
import FilterLang.Scan

/-!
# Scanning step by step

A scanner hands out the tokens of a text one at a time. It can be stopped and taken up again, and it logs what it finds.

## The model

The scanner holds the characters still to be read and how many it has read. One `step` skips blanks and reads one
lexeme. A step that finds a token leaves fewer characters than before, which is why draining a scanner ends. A step
that finds none passes the blanks, and the string behind them if there is one that is never closed.
-/

namespace FilterLang

/-- A text that is being broken into tokens. -/
structure Scanner where
  /-- The position of the first character of the text. -/
  offset : Nat
  /-- How many characters have been read. -/
  position : Nat
  /-- The characters still to be read. -/
  rest : List Char
  deriving DecidableEq, Repr

namespace Scanner

/-- A scanner at the front of a text whose first character has position `offset`. -/
def ofText (offset : Nat) (text : String) : Scanner := ⟨offset, 0, text.toList⟩

/-- The position of the next character, as tokens report it. -/
def location (s : Scanner) : Nat := s.offset + s.position

/-- What one step of a scanner finds, and the scanner after it. -/
inductive Step (bound : Nat) where
  /-- A token; fewer than `bound` characters are left after it. -/
  | token (token : Token) (next : Scanner) (shorter : next.rest.length < bound)
  /-- A string that is never closed. -/
  | unterminated (start : Nat) (dangling : Bool) (next : Scanner)
  /-- Blanks only. -/
  | finished (next : Scanner)

/-- The scanner after the blanks at hand. -/
def skipBlanks (s : Scanner) : Scanner :=
  ⟨s.offset, s.position + (s.rest.takeWhile Text.isBlank).length, s.rest.dropWhile Text.isBlank⟩

/-- The scanner after `more + 1` characters, of which all but the first are at the front of `cs`. -/
def skipLexeme (s : Scanner) (cs : List Char) (more : Nat) : Scanner :=
  ⟨s.offset, s.position + 1 + more, cs.drop more⟩

theorem skipBlanks_length_le (s : Scanner) : s.skipBlanks.rest.length ≤ s.rest.length :=
  (List.dropWhile_sublist Text.isBlank).length_le

theorem skipLexeme_length_lt {s : Scanner} {c : Char} {cs : List Char} (more : Nat)
    (h : s.skipBlanks.rest = c :: cs) : (s.skipBlanks.skipLexeme cs more).rest.length < s.rest.length := by
  have := s.skipBlanks_length_le
  rw [h] at this
  simp only [skipLexeme, List.length_drop, List.length_cons] at this ⊢
  omega

/-- Skips blanks and reads one lexeme. -/
def step (s : Scanner) : Step s.rest.length :=
  match h : s.skipBlanks.rest with
  | [] => .finished s.skipBlanks
  | c :: cs =>
    match Lexeme.read c cs with
    | .lexeme lexeme more =>
      .token (lexeme.token s.skipBlanks.location) (s.skipBlanks.skipLexeme cs more) (skipLexeme_length_lt more h)
    | .unterminated dangling more =>
      .unterminated s.skipBlanks.location dangling (s.skipBlanks.skipLexeme cs more)

/-- The next token, if there is one, and the scanner after it. -/
def next (s : Scanner) : Option Token × Scanner :=
  match s.step with
  | .token t rest _ => (some t, rest)
  | .unterminated _ _ rest => (none, rest)
  | .finished rest => (none, rest)

/-- Up to `n` tokens, and the scanner after them. -/
def take : Nat → Scanner → List Token × Scanner
  | 0, s => ([], s)
  | n + 1, s =>
    match s.next with
    | (none, rest) => ([], rest)
    | (some t, rest) =>
      let (ts, last) := take n rest
      (t :: ts, last)

/-- The records of finding a token: what is wrong with it if it is invalid, and then the token itself. -/
def tokenRecords (t : Token) : List Log.Record :=
  let found : Log.Record :=
    ⟨.trace, .scanner, "token " ++ t.kind.name ++ " at " ++ toString t.position ++ ": " ++ t.display⟩
  if t.kind = .invalid then [⟨.debug, .scanner, t.value⟩, found] else [found]

/-- The record of a string that is never closed. None is made when the text ends right after a backslash. -/
def unterminatedRecords (start : Nat) (dangling : Bool) : List Log.Record :=
  if dangling then []
  else [⟨.debug, .scanner, "unterminated string starting at position " ++ toString (start + 1)⟩]

/-- All tokens that are left, logging each, and the scanner after them. -/
def drain (s : Scanner) : Logged (List Token × Scanner) :=
  match s.step with
  | .token t next _ =>
    let ⟨(ts, last), records⟩ := next.drain
    ⟨(t :: ts, last), tokenRecords t ++ records⟩
  | .unterminated start dangling next => ⟨([], next), unterminatedRecords start dangling⟩
  | .finished next => ⟨([], next), []⟩
termination_by s.rest.length

/-- All tokens that are left, and the scanner after them. -/
def takeAll (s : Scanner) : List Token × Scanner := s.drain.value

end Scanner

end FilterLang
