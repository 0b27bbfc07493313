import FilterLang.Command.Failure
import FilterLang.Expr.Json
import FilterLang.Scanner.Parse

/-!
# Checking an expression

The command that reads a text as an expression and shows it, in its canonical text or as JSON.
-/

namespace FilterLang

/-- What checking an expression shows. -/
inductive Checked where
  /-- The canonical text. -/
  | canonical (text : String)
  /-- The tree. -/
  | json (value : Json)

/-- What is shown of an expression. -/
def Checked.ofExpr (json : Bool) (e : Expr) : Checked := if json then .json e.toJson else .canonical e.canonical

/-- Checks a text whose first character has position `offset`. -/
def check (json : Bool) (offset : Nat) (text : String) : Logged (Except Failure Checked) := do
  Logged.log .debug .check ("checking expression (" ++ toString text.length ++ " chars)")
  let result ← (Scanner.ofText offset text).parse
  match result with
  | .ok e => pure (.ok (.ofExpr json e))
  | .error diagnostics => pure (.error (.parse diagnostics))

end FilterLang
