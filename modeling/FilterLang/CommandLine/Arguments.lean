import FilterLang.Log
import FilterLang.Number.Integer

/-!
# Command-line arguments

    [-v]... [-q] [-V] check  [-v]... [-q] [--json] [-p] [--offset N] [EXPR]
    [-v]... [-q] [-V] tokens [-v]... [-q] [--json] [--offset N] [EXPR]

Every option has a long form; options of one letter may be put together after one dash. Options and the expression may
come in any order after the command. An option other than `-v` may be given only once before the command and once
after it. After `--` everything is taken as the expression, and a lone `-` is an expression too.

Help texts are left out. What would ask for them (`-h`, `--help` and a command `help`) is refused here like any other
option or command that is unknown.
-/

namespace FilterLang.CommandLine

/-- The commands. -/
inductive Command where
  /-- Reads an expression and shows it. -/
  | check
  /-- Shows the tokens of an expression. -/
  | tokens
  deriving DecidableEq, Repr

/-- The command of a given name. -/
def Command.ofName? : String → Option Command
  | "check" => some .check
  | "tokens" => some .tokens
  | _ => none

/-- The options. -/
inductive Flag where
  /-- Log more; may be repeated. -/
  | verbose
  /-- Log errors only. -/
  | quiet
  /-- Show the version and stop. -/
  | version
  /-- Show JSON. -/
  | json
  /-- Indent JSON. -/
  | pretty
  /-- The position of the first character. -/
  | offset
  deriving DecidableEq, Repr

/-- The long form of an option, without its dashes. -/
def Flag.long : Flag → String
  | .verbose => "verbose"
  | .quiet => "quiet"
  | .version => "version"
  | .json => "json"
  | .pretty => "pretty"
  | .offset => "offset"

/-- The letter of an option, if it has one. -/
def Flag.letter? : Flag → Option Char
  | .verbose => some 'v'
  | .quiet => some 'q'
  | .version => some 'V'
  | .json => none
  | .pretty => some 'p'
  | .offset => none

/-- The options that may be given before the command, where there is none yet, or after it. -/
def allowed : Option Command → List Flag
  | none => [.verbose, .quiet, .version]
  | some .check => [.verbose, .quiet, .json, .pretty, .offset]
  | some .tokens => [.verbose, .quiet, .json, .offset]

/-- Why arguments are refused. -/
inductive Misuse where
  /-- No command is given. -/
  | noCommand
  /-- There is no command of this name. -/
  | unknownCommand (name : String)
  /-- There is no such option here. -/
  | unknownOption (name : String)
  /-- An option is given again. -/
  | repeated (flag : Flag)
  /-- An option that takes no value is given one. -/
  | needlessValue (flag : Flag)
  /-- The position is missing. -/
  | missingValue (flag : Flag)
  /-- The position is no number of 64 bits. -/
  | badPosition (text : String)
  /-- There is an expression already. -/
  | secondExpression (text : String)
  deriving DecidableEq, Repr

/-- What users are told about refused arguments. -/
def Misuse.message : Misuse → String
  | .noCommand => "a command is required: check or tokens"
  | .unknownCommand name => "unknown command '" ++ name ++ "'"
  | .unknownOption name => "unknown option '" ++ name ++ "'"
  | .repeated flag => "option '--" ++ flag.long ++ "' is given twice"
  | .needlessValue flag => "option '--" ++ flag.long ++ "' takes no value"
  | .missingValue flag => "option '--" ++ flag.long ++ "' requires a value"
  | .badPosition text => "'" ++ text ++ "' is no position"
  | .secondExpression text => "unexpected argument '" ++ text ++ "'"

/-- Why reading arguments stops early. -/
inductive Stop where
  /-- The version is asked for. -/
  | version
  /-- The arguments are refused. -/
  | misuse (reason : Misuse)
  deriving DecidableEq, Repr

/-- What the arguments on one side of the command say. -/
structure Settings where
  /-- How often more logging is asked for. -/
  verbose : Nat
  /-- Whether only errors are to be logged. -/
  quiet : Bool
  /-- Whether JSON is to be shown. -/
  json : Bool
  /-- Whether JSON is to be indented. -/
  pretty : Bool
  /-- The position of the first character, if it is given. -/
  offset : Option Nat
  /-- The expression, if it is given. -/
  expression : Option String
  deriving DecidableEq, Repr

namespace Settings

/-- Before any argument is read. -/
def initial : Settings := ⟨0, false, false, false, none, none⟩

/-- Refuses an option that is given again. -/
def once (flag : Flag) (given : Bool) (s : Settings) : Except Stop Settings :=
  if given then .error (.misuse (.repeated flag)) else .ok s

/-- Takes an option that has no value. -/
def take (s : Settings) : Flag → Except Stop Settings
  | .verbose => .ok { s with verbose := s.verbose + 1 }
  | .quiet => once .quiet s.quiet { s with quiet := true }
  | .version => .error .version
  | .json => once .json s.json { s with json := true }
  | .pretty => once .pretty s.pretty { s with pretty := true }
  | .offset => .error (.misuse (.missingValue .offset))

/-- The number that a position is written as: digits, after an optional plus sign, for a word of 64 bits. -/
def position? (text : String) : Option Nat :=
  let digits :=
    match text.toList with
    | '+' :: cs => cs
    | cs => cs
  (Number.natural? digits).filter (· < Nat.pow 2 64)

/-- Takes the position of the first character. -/
def takeOffset (s : Settings) (text : String) : Except Stop Settings :=
  match position? text with
  | none => .error (.misuse (.badPosition text))
  | some n => once .offset s.offset.isSome { s with offset := some n }

/-- Takes an expression. -/
def takeExpression (s : Settings) (text : String) : Except Stop Settings :=
  if s.expression.isSome then .error (.misuse (.secondExpression text))
  else .ok { s with expression := some text }

/-- Takes letters that stand after one dash. -/
def takeLetters (place : Option Command) (s : Settings) : List Char → Except Stop Settings
  | [] => .ok s
  | c :: cs => do
    match (allowed place).find? fun flag => flag.letter? == some c with
    | none => .error (.misuse (.unknownOption (String.ofList ['-', c])))
    | some flag =>
      let s ← s.take flag
      s.takeLetters place cs

/-- Takes expressions only. -/
def takeExpressions (s : Settings) : List String → Except Stop Settings
  | [] => .ok s
  | text :: texts => do
    let s ← s.takeExpression text
    s.takeExpressions texts

end Settings

/-- The form of an argument. -/
inductive Argument where
  /-- `--`: no options follow. -/
  | endOfOptions
  /-- An option in its long form, with a value if one is attached by `=`. -/
  | long (name : String) (value : Option String)
  /-- Letters after a dash. -/
  | letters (cs : List Char)
  /-- Anything else. -/
  | plain (text : String)
  deriving DecidableEq, Repr

/-- Splits a long option at its first `=`. -/
def Argument.ofLong (cs : List Char) : Argument :=
  let name := String.ofList (cs.takeWhile (· != '='))
  match cs.dropWhile (· != '=') with
  | [] => .long name none
  | _ :: value => .long name (some (String.ofList value))

/-- The form of an argument, by its dashes. -/
def Argument.ofText (text : String) : Argument :=
  match text.toList with
  | ['-', '-'] => .endOfOptions
  | '-' :: '-' :: cs => .ofLong cs
  | '-' :: c :: cs => .letters (c :: cs)
  | _ => .plain text

/-- The option of a given long form. -/
def longFlag (place : Option Command) (name : String) : Except Stop Flag :=
  match (allowed place).find? fun flag => flag.long == name with
  | none => .error (.misuse (.unknownOption ("--" ++ name)))
  | some flag => .ok flag

/-- Takes an option without a separate value, in its long form. -/
def takeLong (s : Settings) (flag : Flag) (value : Option String) : Except Stop Settings :=
  match flag, value with
  | .offset, some text => s.takeOffset text
  | flag, some _ => .error (.misuse (.needlessValue flag))
  | flag, none => s.take flag

/-- Reads the arguments after a command. -/
def commandSettings (command : Command) (s : Settings) : List String → Except Stop Settings
  | [] => .ok s
  | arg :: args =>
    match Argument.ofText arg with
    | .endOfOptions => s.takeExpressions args
    | .plain text => do
      let s ← s.takeExpression text
      commandSettings command s args
    | .letters cs => do
      let s ← s.takeLetters (some command) cs
      commandSettings command s args
    | .long name value => do
      let flag ← longFlag (some command) name
      match flag, value, args with
      | .offset, none, text :: args =>
        let s ← s.takeOffset text
        commandSettings command s args
      | flag, value, args =>
        let s ← takeLong s flag value
        commandSettings command s args

/-- What is to be done. -/
structure Invocation where
  /-- The command. -/
  command : Command
  /-- The least important level that is logged. -/
  threshold : Log.Level
  /-- Whether JSON is to be shown. -/
  json : Bool
  /-- Whether JSON is to be indented. -/
  pretty : Bool
  /-- The position of the first character. -/
  offset : Nat
  /-- The expression, unless it is to be read from the input. -/
  expression : Option String
  deriving DecidableEq, Repr

/-- The least important level that is logged. -/
def leastLevel (quiet : Bool) (verbose : Nat) : Log.Level :=
  if quiet then .error
  else
    match verbose with
    | 0 => .warn
    | 1 => .info
    | 2 => .debug
    | _ => .trace

/-- What is to be done, by the arguments before and after a command. How much is logged is told by the latter, if they
tell it. -/
def Invocation.ofSettings (before : Settings) (command : Command) (after : Settings) : Invocation :=
  ⟨command, leastLevel (before.quiet || after.quiet) (if after.verbose = 0 then before.verbose else after.verbose),
    after.json, after.pretty, after.offset.getD 0, after.expression⟩

/-- Reads the arguments up to the command, and then those after it. -/
def Invocation.ofSettingsAndArgs (s : Settings) : List String → Except Stop Invocation
  | [] => .error (.misuse .noCommand)
  | arg :: args =>
    match Argument.ofText arg with
    | .endOfOptions => .error (.misuse .noCommand)
    | .plain name =>
      match Command.ofName? name with
      | none => .error (.misuse (.unknownCommand name))
      | some command => do
        let after ← commandSettings command .initial args
        pure (.ofSettings s command after)
    | .letters cs => do
      let s ← s.takeLetters none cs
      ofSettingsAndArgs s args
    | .long name value => do
      let flag ← longFlag none name
      let s ← takeLong s flag value
      ofSettingsAndArgs s args

/-- Reads all arguments. -/
def Invocation.ofArgs (args : List String) : Except Stop Invocation := ofSettingsAndArgs .initial args

end FilterLang.CommandLine
