import FilterLang.Text.ControlSequence

/-!
# Log records

Commands tell what they do in log records. A computation that logs is a value together with its records, in the order
in which they were made; which of them are shown is decided afterwards, by a threshold.
-/

namespace FilterLang

namespace Log

/-- How important a record is, from most to least. -/
inductive Level where
  /-- Something failed. -/
  | error
  /-- Something looks wrong. -/
  | warn
  /-- What is being done. -/
  | info
  /-- How it is being done. -/
  | debug
  /-- Every step of it. -/
  | trace
  deriving DecidableEq, Repr

/-- The name of a level in output. -/
def Level.name : Level → String
  | .error => "ERROR"
  | .warn => "WARN"
  | .info => "INFO"
  | .debug => "DEBUG"
  | .trace => "TRACE"

/-- The place of a level, counted from the most important one. -/
def Level.rank : Level → Nat
  | .error => 0
  | .warn => 1
  | .info => 2
  | .debug => 3
  | .trace => 4

/-- The parts of the program that make records. -/
inductive Source where
  /-- Breaking text into tokens. -/
  | scanner
  /-- Reading an expression from tokens. -/
  | grammar
  /-- The command that checks an expression. -/
  | check
  /-- The command that lists tokens. -/
  | tokens
  deriving DecidableEq, Repr

/-- The name of a source in output. -/
def Source.name : Source → String
  | .scanner => "filter_expr::lexer"
  | .grammar => "filter_expr::parser"
  | .check => "filter_expr::cli::check"
  | .tokens => "filter_expr::cli::tokens"

/-- One thing that was logged. -/
structure Record where
  /-- How important it is. -/
  level : Level
  /-- Where it was made. -/
  source : Source
  /-- What it says. -/
  text : String
  deriving DecidableEq, Repr

/-- Whether a record is shown under a threshold. No threshold hides everything. -/
def Record.isShown (threshold : Option Level) (record : Record) : Bool :=
  threshold.any fun level => decide (record.level.rank ≤ level.rank)

/-- The records that a threshold lets through. -/
def shown (threshold : Option Level) (records : List Record) : List Record :=
  records.filter (Record.isShown threshold)

/-- A character of a record's text. Further lines are indented by four spaces. -/
def Record.indentBreak (c : Char) : List Char := if c = '\n' then '\n' :: [' ', ' ', ' ', ' '] else [c]

/-- A record as a line of its own, its level padded to the length of the longest ones. The line is written for readers
other than a terminal, so control sequences are removed, and one that is not ended takes the line break with it. -/
def Record.line (record : Record) : String :=
  let level := record.level.name
  let text := String.ofList (record.text.toList.flatMap Record.indentBreak)
  Text.ControlSequence.remove
    ("[" ++ level ++ "".pushn ' ' (5 - level.length) ++ " " ++ record.source.name ++ "] " ++ text ++ "\n")

end Log

/-- A value and the records made on the way to it. -/
structure Logged (α : Type) where
  /-- The value. -/
  value : α
  /-- The records, in order. -/
  records : List Log.Record

namespace Logged

/-- Goes on with the value, adding the records that are made then. -/
def bind {α β : Type} (x : Logged α) (f : α → Logged β) : Logged β :=
  let y := f x.value
  ⟨y.value, x.records ++ y.records⟩

instance : Monad Logged where
  pure value := ⟨value, []⟩
  bind := Logged.bind

/-- Makes one record. -/
def log (level : Log.Level) (source : Log.Source) (text : String) : Logged Unit :=
  ⟨(), [⟨level, source, text⟩]⟩

@[simp] theorem value_pure {α : Type} (a : α) : (pure a : Logged α).value = a := rfl

@[simp] theorem records_pure {α : Type} (a : α) : (pure a : Logged α).records = [] := rfl

@[simp] theorem value_bind {α β : Type} (x : Logged α) (f : α → Logged β) :
    (x >>= f).value = (f x.value).value := rfl

@[simp] theorem records_bind {α β : Type} (x : Logged α) (f : α → Logged β) :
    (x >>= f).records = x.records ++ (f x.value).records := rfl

@[simp] theorem records_log (level : Log.Level) (source : Log.Source) (text : String) :
    (log level source text).records = [⟨level, source, text⟩] := rfl

end Logged

end FilterLang
