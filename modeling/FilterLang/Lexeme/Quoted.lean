import FilterLang.Text.Escape

/-!
# Quoted text

Reading what follows an opening quote. Every text can be quoted: escaping it and closing the quote reads back as the
text, whatever comes after (`read_escapeChars`).
-/

namespace FilterLang

/-- The result of reading what follows an opening quote. -/
inductive Quoted where
  /-- The contents, and the number of characters up to and including the closing quote. -/
  | closed (contents : List Char) (length : Nat)
  /-- A backslash and a character that make no escape, after so many characters. -/
  | badEscape (c : Char) (before : Nat)
  /-- The text ends first, possibly right after a backslash, and so many characters stand before its end. -/
  | unclosed (dangling : Bool) (length : Nat)
  deriving DecidableEq, Repr

/-- Quoted text with one more character in front, which is written with `width` characters. -/
def Quoted.cons (c : Char) (width : Nat) : Quoted → Quoted
  | .closed contents length => .closed (c :: contents) (length + width)
  | .badEscape d before => .badEscape d (before + width)
  | .unclosed dangling length => .unclosed dangling (length + width)

/-- Reads what follows an opening quote. -/
def Quoted.read : List Char → Quoted
  | [] => .unclosed false 0
  | '\'' :: _ => .closed [] 1
  | ['\\'] => .unclosed true 1
  | '\\' :: letter :: cs =>
    match Text.unescape? letter with
    | some c => (Quoted.read cs).cons c 2
    | none => .badEscape letter 0
  | c :: cs => (Quoted.read cs).cons c 1

namespace Quoted

/-- A character is read back from the form it has between quotes. -/
theorem read_escapeChar (c : Char) (cs : List Char) :
    read (Text.escapeChar c ++ cs) = (read cs).cons c (Text.escapeChar c).length := by
  unfold Text.escapeChar
  cases h : Text.escapeLetter? c with
  | some letter => simp [read, Text.unescape?_of_escapeLetter? h]
  | none =>
    have hquote : c ≠ '\'' := by rintro rfl; cases h
    have hslash : c ≠ '\\' := by rintro rfl; cases h
    simp [read, hslash]

/-- Escaped text is read back up to the quote that closes it. -/
theorem read_escapeChars (cs k : List Char) :
    read (Text.escapeChars cs ++ '\'' :: k) = .closed cs ((Text.escapeChars cs).length + 1) := by
  induction cs with
  | nil => rfl
  | cons c cs ih =>
    rw [Text.escapeChars, List.flatMap_cons, List.append_assoc, read_escapeChar]
    rw [show cs.flatMap Text.escapeChar = Text.escapeChars cs from rfl, ih, cons]
    simp only [List.length_append]
    congr 1
    omega

end Quoted

end FilterLang
