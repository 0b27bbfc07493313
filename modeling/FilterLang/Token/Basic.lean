import FilterLang.Json.Basic
import FilterLang.Operator
import FilterLang.Text.Escape
import FilterLang.Token.Kind

/-!
# Tokens

A token is a lexeme together with the place where it starts. Places are counted in characters, from zero; users are
told the ordinal, which counts from one.
-/

namespace FilterLang

/-- A lexeme and where it starts. -/
structure Token where
  /-- The lexical category. -/
  kind : Token.Kind
  /-- The number of characters before the token. -/
  position : Nat
  /-- The text of the token: contents without escapes for a string, the name without `@` for an identifier, what is
  wrong for an invalid token, and otherwise what was written. -/
  value : String
  deriving DecidableEq, Repr

namespace Token

/-- The token that stands for the place before the first token, when there is no token to point at. -/
def startOfInput (position : Nat) : Token := ⟨.invalid, position, ""⟩

/-- The position as users are told it, counted from one. -/
def ordinal (t : Token) : Nat := t.position + 1

/-- A name that is a reserved word, and so was written with `@`. -/
def isReserved (t : Token) : Bool := t.kind == .identifier && isReservedWord t.value

/-- Whether a token is the given operator word. -/
def isOperator (t : Token) (word : String) : Bool := t.kind == .operator && t.value == word

/-- The family of an operator that stands between two operands without chaining. -/
def relation? (t : Token) : Option Family :=
  if t.kind = .operator then (Family.ofWord? t.value).filter Family.isRelation else none

/-- A token as source text. An invalid token has none, so its label stands for it. -/
def display (t : Token) : String :=
  match t.kind with
  | .identifier => if t.isReserved then "@" ++ t.value else t.value
  | .operator => t.value
  | .integer => t.value
  | .decimal => t.value
  | .string => "'" ++ Text.escape t.value ++ "'"
  | kind => kind.label

/-- A token as JSON. The members are in alphabetical order. -/
def toJson (t : Token) : Json :=
  .object [("kind", .string t.kind.name), ("position", .integer t.position), ("value", .string t.value)]

end Token

end FilterLang
