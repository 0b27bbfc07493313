import FilterLang.Lexeme.Basic

/-!
# Faults

Why a token list is no expression. A fault is either that the tokens end too early, or that a token stands where it
cannot stand. The wording of every fault is in `Fault.message`.
-/

namespace FilterLang

/-- A reason for rejecting a token list. -/
inductive Fault where
  /-- There are no tokens at all. -/
  | empty
  /-- The tokens end after something that an expression has to follow. -/
  | operandMissing (after : String)
  /-- The tokens end where a closing token or a separator is missing. -/
  | endedEarly
  /-- A whole expression is followed by more tokens. -/
  | leftover
  /-- Another kind of token is needed than the one that was found. -/
  | mismatch (expected : Token.Kind) (found : Token)
  /-- No expression begins with this token. -/
  | unexpected (found : Token)
  deriving DecidableEq, Repr

namespace Fault

/-- The faults that consist in the end of the tokens, and not in a token. -/
def isAtEnd : Fault → Bool
  | .empty => true
  | .operandMissing _ => true
  | .endedEarly => true
  | .leftover => false
  | .mismatch _ _ => false
  | .unexpected _ => false

/-- A text without an ending, if it has that ending. -/
def dropEnding (ending text : String) : String :=
  if ending.toList.isSuffixOf text.toList then
    String.ofList (text.toList.take (text.length - ending.length))
  else text

/-- What is wrong with an invalid token, without the place, which a diagnostic tells anyway. -/
def detail (t : Token) : String := dropEnding (Lexeme.placeSuffix t.position) t.value

/-- What a fault is called in diagnostics. -/
def message : Fault → String
  | .empty => "Expected expression"
  | .operandMissing after => "Expected expression after '" ++ after ++ "'"
  | .endedEarly => "Unexpected end of expression"
  | .leftover => "Expected end of expression"
  | .mismatch expected found => "Expected " ++ expected.label ++ " but found " ++ found.display
  | .unexpected found =>
    let token := "Unexpected token '" ++ found.display ++ "'"
    if found.kind = .invalid then token ++ ": " ++ detail found else token

end Fault

end FilterLang
