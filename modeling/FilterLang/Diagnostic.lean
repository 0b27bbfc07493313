import FilterLang.Token.Basic

/-!
# Diagnostics

What users are told about a text that is no expression: a message, and the token it points at. A failed reading always
has something to tell, so `Diagnostics` are never empty.
-/

namespace FilterLang

/-- A message and the token it is about. -/
structure Diagnostic where
  /-- The token the message points at. -/
  token : Token
  /-- What is wrong. -/
  message : String
  deriving DecidableEq, Repr

namespace Diagnostic

/-- The position of the token, counted from one. -/
def ordinal (d : Diagnostic) : Nat := d.token.ordinal

/-- The message and its place, as one text. -/
def display (d : Diagnostic) : String := d.message ++ " at position " ++ toString d.ordinal

/-- A diagnostic as JSON: what is wrong, and where, counted from one. -/
def toJson (d : Diagnostic) : Json :=
  .object [("message", .string d.message), ("position", .integer d.ordinal)]

end Diagnostic

/-- One or more diagnostics, in the order in which they were found. -/
structure Diagnostics where
  /-- The first of them. -/
  first : Diagnostic
  /-- The others. -/
  others : List Diagnostic
  deriving DecidableEq, Repr

namespace Diagnostics

/-- All of them, in order. -/
def toList (ds : Diagnostics) : List Diagnostic := ds.first :: ds.others

/-- The diagnostics of a list, unless it is empty. -/
def ofList? : List Diagnostic → Option Diagnostics
  | [] => none
  | d :: ds => some ⟨d, ds⟩

/-- A single diagnostic. -/
def singleton (d : Diagnostic) : Diagnostics := ⟨d, []⟩

/-- How many there are. -/
def length (ds : Diagnostics) : Nat := ds.toList.length

/-- One line for each diagnostic. -/
def display (ds : Diagnostics) : String := "\n".intercalate (ds.toList.map Diagnostic.display)

/-- Diagnostics as a JSON array, in order. -/
def toJson (ds : Diagnostics) : Json := .array (ds.toList.map Diagnostic.toJson)

end Diagnostics

end FilterLang
