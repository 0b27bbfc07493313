import FilterLang.Operator

/-!
# Expressions

The trees that filters are read into. Numbers are kept as the text that was written, strings as their contents, and
operators as words; nothing is computed.
-/

namespace FilterLang

/-- An expression of the filter language. -/
inductive Expr where
  /-- The name of a field. A reserved name is one that has to be written with `@`. -/
  | identifier (name : String) (reserved : Bool)
  /-- A string, by its contents. -/
  | string (value : String)
  /-- A number without a decimal point, as written. -/
  | integer (text : String)
  /-- A number with a decimal point, as written. -/
  | decimal (text : String)
  /-- The missing value. -/
  | null
  /-- A truth value. -/
  | boolean (value : Bool)
  /-- A list of expressions. -/
  | list (elements : List Expr)
  /-- Two expressions joined by an operator word of the given family. -/
  | binary (family : Family) (op : String) (left right : Expr)
  deriving Repr

namespace Expr

/-- The field of a given name. -/
def ofName (name : String) : Expr := .identifier name (isReservedWord name)

/-- Joins two expressions by an operator word, if the word has a binary form. -/
def join? (op : String) (left right : Expr) : Option Expr :=
  (Family.ofWord? op).map fun family => .binary family op left right

/-- The expressions that stand for a value by themselves. -/
def isLiteral : Expr → Bool
  | .string _ => true
  | .integer _ => true
  | .decimal _ => true
  | .null => true
  | .boolean _ => true
  | .identifier _ _ => false
  | .list _ => false
  | .binary _ _ _ _ => false

/-- The direct parts of an expression, from left to right. -/
def children : Expr → List Expr
  | .list elements => elements
  | .binary _ _ left right => [left, right]
  | _ => []

mutual

/-- Every node of an expression, each before its parts, with its depth below the root. -/
def preorder (depth : Nat) : Expr → List (Nat × Expr)
  | .list elements => (depth, .list elements) :: preorderAll (depth + 1) elements
  | .binary family op left right =>
    (depth, .binary family op left right) :: (preorder (depth + 1) left ++ preorder (depth + 1) right)
  | e => [(depth, e)]

/-- The nodes of several expressions, one after the other. -/
def preorderAll (depth : Nat) : List Expr → List (Nat × Expr)
  | [] => []
  | e :: es => preorder depth e ++ preorderAll depth es

end

/-! ### Equality of trees -/

mutual

/-- Whether two trees are the same node for node. -/
def same : Expr → Expr → Bool
  | .identifier name reserved, .identifier name' reserved' => name == name' && reserved == reserved'
  | .string value, .string value' => value == value'
  | .integer text, .integer text' => text == text'
  | .decimal text, .decimal text' => text == text'
  | .null, .null => true
  | .boolean value, .boolean value' => value == value'
  | .list elements, .list elements' => sameAll elements elements'
  | .binary family op left right, .binary family' op' left' right' =>
    family == family' && op == op' && same left left' && same right right'
  | _, _ => false

/-- Whether two lists hold the same trees in the same order. -/
def sameAll : List Expr → List Expr → Bool
  | [], [] => true
  | e :: es, e' :: es' => same e e' && sameAll es es'
  | _, _ => false

end

mutual

theorem same_iff (a b : Expr) : same a b = true ↔ a = b := by
  cases a <;> cases b <;> simp [same, and_assoc]
  case list.list es es' => exact sameAll_iff es es'
  case binary.binary l r _ _ l' r' => rw [same_iff l l', same_iff r r']; simp

theorem sameAll_iff (es es' : List Expr) : sameAll es es' = true ↔ es = es' := by
  cases es with
  | nil => cases es' <;> simp [sameAll]
  | cons e es =>
    cases es' with
    | nil => simp [sameAll]
    | cons e' es' => simp [sameAll, same_iff e e', sameAll_iff es es']

end

instance : DecidableEq Expr := fun a b => decidable_of_iff (same a b = true) (same_iff a b)

end Expr

end FilterLang
