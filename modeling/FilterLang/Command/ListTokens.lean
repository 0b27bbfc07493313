import FilterLang.Json.Compact
import FilterLang.Scanner.Basic

/-!
# Listing tokens

The command that shows the tokens of a text: one line for each, or a JSON array. Invalid tokens are listed like any
other.
-/

namespace FilterLang

/-- The line of a token: its kind, position and value. -/
def Token.line (t : Token) : String := t.kind.name ++ ", " ++ toString t.position ++ ", " ++ t.value

/-- Tokens as text. -/
def tokenListing (json : Bool) (ts : List Token) : String :=
  if json then (Json.array (ts.map Token.toJson)).compact else "\n".intercalate (ts.map Token.line)

/-- Lists the tokens of a text whose first character has position `offset`. -/
def listTokens (json : Bool) (offset : Nat) (text : String) : Logged String := do
  let (ts, _) ← (Scanner.ofText offset text).drain
  Logged.log .debug .tokens ("lexed " ++ toString ts.length ++ " tokens")
  pure (tokenListing json ts)

end FilterLang
