import FilterLang.Lexeme.Quoted
import FilterLang.Text.CharClass
import FilterLang.Token.Basic

/-!
# Lexemes

What stands at the front of a text that does not begin with a blank. Reading it depends on the characters alone; the
place where it stands is filled in when a token is made of it.

## The model

`Lexeme.read c cs` reads the lexeme at the front of `c :: cs`. It takes as many characters as the lexeme's class allows:
a word ends where no word character follows, a number where neither a digit nor its first point follows. The result
says how many characters of `cs` are taken besides `c`, so at least one character is always taken. Only a string that
is never closed is no lexeme.
-/

namespace FilterLang

/-- What can stand at the front of a text. -/
inductive Lexeme where
  /-- A lexeme with a meaning: its kind, and the value of its token. -/
  | plain (kind : Token.Kind) (value : List Char)
  /-- A character that begins no lexeme. -/
  | stray (c : Char)
  /-- A string cut short after a backslash and a character that make no escape. So many characters stand between the
  opening quote and the backslash. -/
  | badEscape (c : Char) (before : Nat)
  deriving DecidableEq, Repr

/-- The result of reading what stands at the front of a text. -/
inductive Lexeme.Reading where
  /-- A lexeme, and how many characters it takes besides its first. -/
  | lexeme (lexeme : Lexeme) (more : Nat)
  /-- A string that is never closed, whose text possibly ends right after a backslash, and how many characters it takes
  besides its quote. -/
  | unterminated (dangling : Bool) (more : Nat)
  deriving DecidableEq, Repr

namespace Lexeme

/-- The kind of a word written bare. -/
def wordKind (word : List Char) : Token.Kind :=
  match String.ofList word with
  | "null" => .null
  | "true" => .true
  | "false" => .false
  | text => if isOperatorWord text then .operator else .identifier

/-- The kind of a character that is a token by itself. -/
def punctuation? : Char → Option Token.Kind
  | ',' => some .comma
  | '(' => some .parenOpen
  | ')' => some .parenClose
  | '[' => some .bracketOpen
  | ']' => some .bracketClose
  | _ => none

/-- Reads a word that begins with `c`. -/
def readWord (c : Char) (cs : List Char) : Reading :=
  let more := cs.takeWhile Text.inWord
  .lexeme (.plain (wordKind (c :: more)) (c :: more)) more.length

/-- Reads what follows `@`: a name, even if the word is reserved, or else nothing, and then `@` is stray. -/
def readName (cs : List Char) : Reading :=
  if cs.head?.any Text.startsWord then
    let name := cs.takeWhile Text.inWord
    .lexeme (.plain .identifier name) name.length
  else
    .lexeme (.stray '@') 0

/-- Reads a number that begins with `c`, a digit or `-`: digits, and after them possibly a point and more digits. -/
def readNumber (c : Char) (cs : List Char) : Reading :=
  let whole := cs.takeWhile Char.isDigit
  match cs.dropWhile Char.isDigit with
  | '.' :: rest =>
    let digits := whole ++ '.' :: rest.takeWhile Char.isDigit
    .lexeme (.plain .decimal (c :: digits)) digits.length
  | _ => .lexeme (.plain .integer (c :: whole)) whole.length

/-- Reads what follows an opening quote as the rest of a string. -/
def readString (cs : List Char) : Reading :=
  match Quoted.read cs with
  | .closed contents length => .lexeme (.plain .string contents) length
  | .badEscape c before => .lexeme (.badEscape c before) (before + 2)
  | .unclosed dangling length => .unterminated dangling length

/-- Reads the lexeme at the front of `c :: cs`, where `c` is no blank. -/
def read (c : Char) (cs : List Char) : Reading :=
  if c = '@' then readName cs
  else if Text.startsWord c then readWord c cs
  else if c.isDigit then readNumber c cs
  else if c = '-' ∧ cs.head?.any Char.isDigit then readNumber c cs
  else if c = '\'' then readString cs
  else
    match punctuation? c with
    | some kind => .lexeme (.plain kind [c]) 0
    | none => .lexeme (.stray c) 0

/-- What is wrong with a stray character. -/
def strayMessage (c : Char) : String := "Unrecognized character '" ++ c.toString ++ "'"

/-- What is wrong with a backslash followed by `c`. -/
def badEscapeMessage (c : Char) : String := "Unrecognized escape sequence '\\" ++ c.toString ++ "'"

/-- The words that tell users a position, which they count from one. -/
def placeSuffix (position : Nat) : String := " at position " ++ toString (position + 1)

/-- The token of a lexeme that starts at the given position. A bad escape is pointed at by its backslash. -/
def token (position : Nat) : Lexeme → Token
  | .plain kind value => ⟨kind, position, String.ofList value⟩
  | .stray c => ⟨.invalid, position, strayMessage c ++ placeSuffix position⟩
  | .badEscape c before =>
    let backslash := position + 1 + before
    ⟨.invalid, backslash, badEscapeMessage c ++ placeSuffix backslash⟩

end Lexeme

end FilterLang
