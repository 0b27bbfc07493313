/-!
# Kinds of token

A kind has two texts: its `name`, which token listings show, and its `label`, which diagnostics show.
-/

namespace FilterLang.Token

/-- The lexical category of a token. -/
inductive Kind where
  /-- A character or an escape that has no meaning; the token's value says what is wrong. -/
  | invalid
  /-- The name of a field. -/
  | identifier
  /-- The word `true`. -/
  | true
  /-- The word `false`. -/
  | false
  /-- The word `null`. -/
  | null
  /-- One of the operator words. -/
  | operator
  /-- Text between single quotes. -/
  | string
  /-- A number without a decimal point. -/
  | integer
  /-- A number with a decimal point. -/
  | decimal
  /-- `,`. -/
  | comma
  /-- `(`. -/
  | parenOpen
  /-- `)`. -/
  | parenClose
  /-- `[`. -/
  | bracketOpen
  /-- `]`. -/
  | bracketClose
  deriving DecidableEq, Repr

/-- The name of a kind in token listings. -/
def Kind.name : Kind → String
  | .invalid => "Invalid"
  | .identifier => "Identifier"
  | .true => "True"
  | .false => "False"
  | .null => "Null"
  | .operator => "Operator"
  | .string => "StringLiteral"
  | .integer => "IntegerLiteral"
  | .decimal => "DecimalLiteral"
  | .comma => "Comma"
  | .parenOpen => "ParenOpen"
  | .parenClose => "ParenClose"
  | .bracketOpen => "BracketOpen"
  | .bracketClose => "BracketClose"

/-- What a diagnostic calls a kind when it says which token it expected. -/
def Kind.label : Kind → String
  | .invalid => "<INVALID>"
  | .identifier => "identifier"
  | .true => "true"
  | .false => "false"
  | .null => "null"
  | .operator => "operator"
  | .string => "string"
  | .integer => "integer"
  | .decimal => "decimal"
  | .comma => ","
  | .parenOpen => "("
  | .parenClose => ")"
  | .bracketOpen => "["
  | .bracketClose => "]"

/-- All kinds. -/
def Kind.all : List Kind :=
  [.invalid, .identifier, .true, .false, .null, .operator, .string, .integer, .decimal, .comma,
   .parenOpen, .parenClose, .bracketOpen, .bracketClose]

/-- The kind of a given name. -/
def Kind.ofName? (name : String) : Option Kind := Kind.all.find? fun kind => kind.name == name

@[simp] theorem Kind.ofName?_name (kind : Kind) : Kind.ofName? kind.name = some kind := by
  cases kind <;> rfl

end FilterLang.Token
