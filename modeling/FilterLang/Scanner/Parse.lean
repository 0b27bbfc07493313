import FilterLang.Expr.Canonical
import FilterLang.Parse.Basic
import FilterLang.Scanner.Basic

/-!
# Reading an expression from a scanner

The tokens that a scanner still holds are read as one expression, and what comes of it is logged. All tokens are
scanned before the first of them is looked at.
-/

namespace FilterLang

/-- The records of a reading: the expression in its canonical text, or every diagnostic and their number. -/
def parseRecords : Except Diagnostics Expr → List Log.Record
  | .ok e => [⟨.debug, .grammar, "parsed expression " ++ e.canonical⟩]
  | .error ds =>
    ds.toList.map (fun d => ⟨.trace, .grammar, d.display⟩)
      ++ [⟨.debug, .grammar, "parse failed with " ++ toString ds.length ++ " error(s)"⟩]

/-- Reads the tokens a scanner still holds as one expression. If it holds none, the diagnostic points at the start of
its text. -/
def Scanner.parse (s : Scanner) : Logged (Except Diagnostics Expr) := do
  let (ts, _) ← s.drain
  Logged.log .debug .grammar ("parsing " ++ toString ts.length ++ " tokens")
  let result := parseTokens s.offset ts
  ⟨result, parseRecords result⟩

end FilterLang
