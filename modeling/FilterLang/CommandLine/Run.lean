import FilterLang.Command.Check
import FilterLang.Command.ListTokens
import FilterLang.CommandLine.Arguments

/-!
# Running the program

What the program does for given arguments and a given input: the exit code, and what it writes. Log records come before
the report of a failure on the error stream.
-/

namespace FilterLang.CommandLine

/-- Where an expression comes from when the arguments hold none. -/
inductive Input where
  /-- A terminal, which is not read. -/
  | terminal
  /-- Bytes from elsewhere. -/
  | piped (bytes : ByteArray)

/-- What a run of the program leaves behind. -/
structure Completion where
  /-- The exit code. -/
  exit : Nat
  /-- What is written to the output. -/
  output : String
  /-- What is written to the error stream. -/
  errors : String
  deriving DecidableEq, Repr

/-- The name and the version of the program. -/
def versionText : String := "fexpr 0.1.0"

/-- Lines of text, each ended by a line break. -/
def unlines (lines : List String) : String := String.join (lines.map (· ++ "\n"))

/-- The text to work on: the expression among the arguments, or else the whole input. -/
def expressionText (expression : Option String) (input : Input) : Except Failure String :=
  match expression, input with
  | some text, _ => .ok text
  | none, .terminal => .error .noInput
  | none, .piped bytes =>
    match String.fromUTF8? bytes with
    | some text => .ok text
    | none => .error (.io "stream did not contain valid UTF-8")

/-- What is written about a failure: a line for each diagnostic, or one for the failure itself. -/
def failureLines : Failure → List String
  | .parse diagnostics =>
    diagnostics.toList.map fun d => "error: " ++ d.message ++ " (position " ++ toString d.ordinal ++ ")"
  | failure => [failure.message]

/-- What is written to the output when a command fails. Diagnostics are shown as JSON if JSON is asked for. -/
def failureOutput (json : Bool) : Failure → List String
  | .parse diagnostics => if json then [diagnostics.toJson.compact] else []
  | _ => []

/-- What a checked expression is shown as. -/
def checkedText (pretty : Bool) : Checked → String
  | .canonical text => text
  | .json value => if pretty then value.pretty else value.compact

/-- Runs the command on a text. The result is what it shows. -/
def execute (invocation : Invocation) (text : String) : Logged (Except Failure String) :=
  match invocation.command with
  | .check => do
    let result ← FilterLang.check invocation.json invocation.offset text
    pure (result.map (checkedText invocation.pretty))
  | .tokens => do
    let listing ← listTokens invocation.json invocation.offset text
    pure (.ok listing)

/-- Does what the arguments say. -/
def run (invocation : Invocation) (input : Input) : Completion :=
  match expressionText invocation.expression input with
  | .error failure => ⟨1, "", unlines (failureLines failure)⟩
  | .ok text =>
    let logged := execute invocation text
    let log := String.join ((Log.shown (some invocation.threshold) logged.records).map Log.Record.line)
    match logged.value with
    | .ok shown => ⟨0, unlines [shown], log⟩
    | .error failure =>
      ⟨1, unlines (failureOutput invocation.json failure), log ++ unlines (failureLines failure)⟩

/-- Runs the program. The error is why the arguments are refused. -/
def runArgs (args : List String) (input : Input) : Except Misuse Completion :=
  match Invocation.ofArgs args with
  | .ok invocation => .ok (run invocation input)
  | .error .version => .ok ⟨0, unlines [versionText], ""⟩
  | .error (.misuse reason) => .error reason

end FilterLang.CommandLine
