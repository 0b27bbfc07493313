import FilterLang.Expr.Value
import FilterLang.Json.Compact
import FilterLang.Json.Pretty

/-!
# Expressions as JSON

Every node is an object that tells its type. A number shows its text and its value: a whole number if it fits into an
integer of 64 bits, otherwise the nearest number of double precision, and `null` if it is no decimal either. The
members of an object are in alphabetical order.
-/

namespace FilterLang.Expr

/-- The value of a number as JSON. -/
def valueJson (e : Expr) : Json :=
  match e.integerValue? with
  | some n => .integer n
  | none =>
    match e.decimalValue? with
    | some d => .real d.negative (Number.Double.ofDecimal d)
    | none => .null

/-- The member that tells the type of a node. -/
def typeMember (name : String) : String × Json := ("type", .string name)

mutual

/-- An expression as JSON. -/
def toJson : Expr → Json
  | .identifier name reserved =>
    .object ((if reserved then [("escaped", .bool true)] else []) ++ [("name", .string name), typeMember "identifier"])
  | .string value => .object [typeMember "string", ("value", .string value)]
  | .integer text =>
    .object [("text", .string text), typeMember "integer", ("value", valueJson (.integer text))]
  | .decimal text =>
    .object [("text", .string text), typeMember "decimal", ("value", valueJson (.decimal text))]
  | .null => .object [typeMember "null"]
  | .boolean value => .object [typeMember "boolean", ("value", .bool value)]
  | .list elements => .object [("elements", .array (toJsonAll elements)), typeMember "list"]
  | .binary family op left right =>
    .object
      [("kind", .string family.name), ("left", toJson left), ("op", .string op), ("right", toJson right),
       typeMember "binary"]

/-- Several expressions as JSON. -/
def toJsonAll : List Expr → List Json
  | [] => []
  | e :: es => toJson e :: toJsonAll es

end

/-- The compact JSON text of an expression. -/
def compactJson (e : Expr) : String := e.toJson.compact

/-- The pretty JSON text of an expression. -/
def prettyJson (e : Expr) : String := e.toJson.pretty

end FilterLang.Expr
