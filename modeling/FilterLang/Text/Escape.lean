/-!
# Escapes in quoted text

Between single quotes six characters are written as a backslash and one more character: the line breaks and the tab,
the backslash itself, and both quotes. `escape` writes text in that form; `unescape?` says what the character after a
backslash stands for.
-/

namespace FilterLang.Text

/-- The character that follows the backslash when `c` has to be escaped. -/
def escapeLetter? : Char → Option Char
  | '\n' => some 'n'
  | '\r' => some 'r'
  | '\t' => some 't'
  | '\\' => some '\\'
  | '\'' => some '\''
  | '"' => some '"'
  | _ => none

/-- The character that a backslash followed by `c` stands for. -/
def unescape? : Char → Option Char
  | 'n' => some '\n'
  | 'r' => some '\r'
  | 't' => some '\t'
  | '\\' => some '\\'
  | '\'' => some '\''
  | '"' => some '"'
  | _ => none

/-- A single character as it is written between quotes. -/
def escapeChar (c : Char) : List Char :=
  match escapeLetter? c with
  | some letter => ['\\', letter]
  | none => [c]

/-- Characters as they are written between quotes. -/
def escapeChars (cs : List Char) : List Char := cs.flatMap escapeChar

/-- Text as it is written between single quotes, without the quotes. -/
def escape (text : String) : String := String.ofList (escapeChars text.toList)

/-- An escaped character is read back as itself. -/
theorem unescape?_of_escapeLetter? {c letter : Char} (h : escapeLetter? c = some letter) :
    unescape? letter = some c := by
  unfold escapeLetter? at h
  split at h <;> cases h <;> rfl

end FilterLang.Text
