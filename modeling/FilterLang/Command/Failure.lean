import FilterLang.Diagnostic

/-!
# Failures of commands

Why a command has no result.
-/

namespace FilterLang

/-- A reason for a command to fail. -/
inductive Failure where
  /-- The text is no expression. -/
  | parse (diagnostics : Diagnostics)
  /-- A document could not be written. -/
  | json (detail : String)
  /-- The input could not be read. -/
  | io (detail : String)
  /-- There is no expression to work on. -/
  | noInput
  deriving DecidableEq, Repr

namespace Failure

/-- What users are told about a failure. -/
def message : Failure → String
  | .parse diagnostics => "Parse error: " ++ diagnostics.display
  | .json detail => "JSON error: " ++ detail
  | .io detail => "IO error: " ++ detail
  | .noInput => "No expression provided. Pass one as an argument or pipe it to stdin."

end Failure

end FilterLang
