import FilterLang.Lexeme.Basic

/-!
# Scanning a text

The tokens of a whole text, and how the text ends. Scanning never fails: what has no meaning becomes an invalid token,
and a string that is never closed ends the tokens.
-/

namespace FilterLang

/-- How a text ends. -/
inductive Ending where
  /-- Every character is a blank or part of a token. -/
  | complete
  /-- A string starts at this position and is never closed; possibly the text ends right after a backslash. -/
  | unterminated (start : Nat) (dangling : Bool)
  deriving DecidableEq, Repr

/-- The tokens of a text, and how it ends. -/
structure Scan where
  /-- The tokens, from left to right. -/
  tokens : List Token
  /-- How the text ends. -/
  ending : Ending
  deriving DecidableEq, Repr

namespace Scan

/-- A scan with one more token in front. -/
def cons (t : Token) (s : Scan) : Scan := ⟨t :: s.tokens, s.ending⟩

/-- Scans characters of which the first has the given position. -/
def ofChars (position : Nat) : List Char → Scan
  | [] => ⟨[], .complete⟩
  | c :: cs =>
    if Text.isBlank c then ofChars (position + 1) cs
    else
      match Lexeme.read c cs with
      | .lexeme lexeme more => (ofChars (position + 1 + more) (cs.drop more)).cons (lexeme.token position)
      | .unterminated dangling _ => ⟨[], .unterminated position dangling⟩
termination_by cs => cs.length

end Scan

/-- Scans a text whose first character has position `offset`. -/
def scanAt (offset : Nat) (text : String) : Scan := Scan.ofChars offset text.toList

/-- The tokens of a text whose first character has position `offset`. -/
def tokensAt (offset : Nat) (text : String) : List Token := (scanAt offset text).tokens

/-- The tokens of a text. -/
def tokens (text : String) : List Token := tokensAt 0 text

end FilterLang
