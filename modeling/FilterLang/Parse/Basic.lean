import FilterLang.Diagnostic
import FilterLang.Parse.Rules
import FilterLang.Scan

/-!
# Reading expressions

A text is an expression if all of its tokens together are one. Otherwise there is exactly one diagnostic. It points at
the token that was at hand when the fault was found, at the last token if the tokens had ended, and at the start of the
input if there is no token.
-/

namespace FilterLang

namespace Parse

/-- Reads a whole token list as one expression. The error holds the tokens that were unread when the fault was found. -/
def sentence (ts : List Token) : Except (Fault × List Token) Expr :=
  if ts = [] then .error (.empty, [])
  else
    match chain .or ts with
    | .rejected fault rest => .error (fault, rest)
    | .accepted e [] _ => .ok e
    | .accepted _ (t :: rest) _ => .error (.leftover, t :: rest)

/-- The token that a fault is blamed on: the first of the unread tokens, or the last of all, or the start of the input
at position `start`. -/
def blamed (start : Nat) (ts unread : List Token) : Token :=
  (unread.head?.or ts.getLast?).getD (Token.startOfInput start)

end Parse

/-- Reads a token list as one expression. The input it comes from starts at position `start`. -/
def parseTokens (start : Nat) (ts : List Token) : Except Diagnostics Expr :=
  match Parse.sentence ts with
  | .ok e => .ok e
  | .error (fault, unread) => .error (.singleton ⟨Parse.blamed start ts unread, fault.message⟩)

/-- Reads a text as an expression. Its first character has position `offset`. -/
def parseAt (offset : Nat) (text : String) : Except Diagnostics Expr :=
  parseTokens offset (tokensAt offset text)

/-- Reads a text as an expression. -/
def parse (text : String) : Except Diagnostics Expr := parseAt 0 text

end FilterLang
