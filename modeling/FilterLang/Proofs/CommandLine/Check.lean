import FilterLang.CommandLine.Run
import FilterLang.Proofs.Expr.ReadBack
import FilterLang.Proofs.Json.Characters
import FilterLang.Proofs.Scanner.Steps

/-!
# Checking what a check shows

What checking a text leaves behind is told by how the text is read (`prints_of_ok`, `runArgs_of_error`): logging goes
to the error stream only. What is shown of an expression is its canonical text on a line, and the line break at its end
is a blank, so it can be piped into another check, which finds the same expression (`check_again`).
-/

namespace FilterLang

/-- Checking succeeds on expressions only, and tells the diagnostics of any other text. -/
theorem value_check (json : Bool) (offset : Nat) (text : String) :
    (check json offset text).value =
      match parseAt offset text with
      | .ok e => .ok (.ofExpr json e)
      | .error ds => .error (.parse ds) := by
  rw [check, Logged.value_bind, Logged.value_bind, Scanner.value_parse_ofText]
  cases parseAt offset text <;> rfl

/-- A canonical text on a line of its own is read as its expression. -/
theorem Expr.WellFormed.parseAt_line {e : Expr} (h : e.WellFormed) (offset : Nat) :
    parseAt offset (e.canonical ++ "\n") = .ok e := by
  have hspells : Grammar.Spells (.chain .or) ((e.canonicalOnto []) ++ ['\n']) e :=
    (Grammar.Spells.chain_of_primary h.readsBack .or).blank (by decide)
  refine Grammar.Spells.parseAt ?_ offset
  rw [String.toList_append, toList_canonical]
  exact hspells

namespace CommandLine

/-- The arguments ask to check an expression and to show it in the given way. -/
def AsksToCheck (args : List String) (json pretty : Bool) (offset : Nat) (expression : Option String) : Prop :=
  ∃ threshold, Invocation.ofArgs args = .ok ⟨.check, threshold, json, pretty, offset, expression⟩

/-- The program ends with the given exit code and has written the given output. -/
def Prints (args : List String) (input : Input) (exit : Nat) (output : String) : Prop :=
  ∃ errors, runArgs args input = .ok ⟨exit, output, errors⟩

section Check

variable {args : List String} {json pretty : Bool} {offset : Nat} {expression : Option String} {input : Input}
  {text : String}

theorem unlines_singleton (line : String) : unlines [line] = line ++ "\n" := by
  simp [unlines, String.join]

/-- What a check shows on success, and why it fails otherwise. -/
theorem value_execute_check {threshold : Log.Level} :
    (execute ⟨.check, threshold, json, pretty, offset, expression⟩ text).value =
      match parseAt offset text with
      | .ok e => .ok (checkedText pretty (.ofExpr json e))
      | .error ds => .error (.parse ds) := by
  rw [execute]
  dsimp only
  rw [Logged.value_bind, value_check]
  cases parseAt offset text <;> rfl

/-- A check comes out as the reading of its text does. Only the error stream holds more than that. -/
theorem runArgs_check (hargs : AsksToCheck args json pretty offset expression)
    (htext : expressionText expression input = .ok text) :
    ∃ log, runArgs args input = .ok
      (match parseAt offset text with
      | .ok e => ⟨0, checkedText pretty (.ofExpr json e) ++ "\n", log⟩
      | .error ds => ⟨1, unlines (failureOutput json (.parse ds)), log ++ unlines (failureLines (.parse ds))⟩) := by
  obtain ⟨threshold, hargs⟩ := hargs
  let invocation : Invocation := ⟨.check, threshold, json, pretty, offset, expression⟩
  let records := (execute invocation text).records
  refine ⟨String.join ((Log.shown (some threshold) records).map Log.Record.line), ?_⟩
  simp only [runArgs, hargs, run, htext, value_execute_check]
  cases parseAt offset text with
  | ok e => simp only [unlines_singleton, records, invocation]
  | error ds => rfl

/-- If the text is an expression, the check shows it. -/
theorem prints_of_ok {e : Expr} (hargs : AsksToCheck args json pretty offset expression)
    (htext : expressionText expression input = .ok text) (hparse : parseAt offset text = .ok e) :
    Prints args input 0 (checkedText pretty (.ofExpr json e) ++ "\n") := by
  obtain ⟨log, hrun⟩ := runArgs_check hargs htext
  rw [hparse] at hrun
  exact ⟨log, hrun⟩

/-- If the text is no expression, the check shows the diagnostics on the error stream, and as JSON if JSON is asked
for. -/
theorem runArgs_of_error {ds : Diagnostics} (hargs : AsksToCheck args json pretty offset expression)
    (htext : expressionText expression input = .ok text) (hparse : parseAt offset text = .error ds) :
    ∃ log, runArgs args input = .ok
      ⟨1, if json then ds.toJson.compact ++ "\n" else "", log ++ unlines (failureLines (.parse ds))⟩ := by
  obtain ⟨log, hrun⟩ := runArgs_check hargs htext
  refine ⟨log, ?_⟩
  rw [hrun, hparse]
  cases json with
  | false => rfl
  | true => simp only [failureOutput, if_true, unlines_singleton]

end Check

/-- Text that is piped in is the text to work on. -/
theorem expressionText_piped (text : String) : expressionText none (.piped text.toUTF8) = .ok text := by
  have hvalid : String.fromUTF8? text.toUTF8 = some text := dif_pos text.isValidUTF8
  rw [expressionText, hvalid]

end CommandLine

end FilterLang
