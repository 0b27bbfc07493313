import FilterLang.Expr.Write
import FilterLang.Main
import FilterLang.Scanner.Lemmas
import FilterLang.Proofs.Expr.ReadBack
import FilterLang.Proofs.Grammar.Exclusion
import FilterLang.Proofs.Scan.Unterminated
import FilterLang.Proofs.Grammar.Lookahead
import FilterLang.Proofs.Grammar.Viable
import FilterLang.Proofs.Lexeme.Form
import FilterLang.Proofs.Scan.Munch
import FilterLang.Proofs.Scan.Shift
import FilterLang.Proofs.Grammar.Shift
import FilterLang.Proofs.Expr.Spells
import FilterLang.Proofs.Expr.Combine
import FilterLang.Proofs.Scan.Range
import FilterLang.Proofs.Scan.Quote
import FilterLang.Proofs.Scan.Display
import FilterLang.Proofs.Grammar.Place
import FilterLang.Proofs.Scanner.Steps
import FilterLang.Proofs.Scanner.Tallied
import FilterLang.Proofs.Scanner.Additions
import FilterLang.Proofs.Scanner.Session
import FilterLang.Proofs.Json.Characters
import FilterLang.Proofs.Json.Outline
import FilterLang.Proofs.CommandLine.Check
import FilterLang.Proofs.Expr.Json
import FilterLang.Proofs.Expr.Write
import FilterLang.Proofs.Number.Value
import FilterLang.Proofs.Number.Decimal
import FilterLang.Proofs.Expr.Value
import FilterLang.Proofs.Text.Lines
import FilterLang.Proofs.Scan.Breaks
import FilterLang.Proofs.Command.Listing
import FilterLang.Proofs.Grammar.Due
import FilterLang.Proofs.CommandLine.Report
import FilterLang.Proofs.Json.Layout
import FilterLang.Proofs.Command.Trace
import FilterLang.Proofs.Grammar.Progress
import FilterLang.Proofs.Grammar.Checkpoint
