import FilterLang.Expr.Basic
import FilterLang.Text.Escape

/-!
# Canonical text

Every expression has one canonical text. Each binary operation stands in parentheses with one space on either side of
its operator, a list has neither spaces nor a trailing comma, and a string is quoted and escaped.

The text is written in front of what follows it, so that writing a tree takes time in proportion to its text.
-/

namespace FilterLang.Expr

/-- A name in front of `k`, with `@` if it is reserved. -/
def nameOnto (name : String) (reserved : Bool) (k : List Char) : List Char :=
  if reserved then '@' :: (name.toList ++ k) else name.toList ++ k

/-- A quoted string in front of `k`. -/
def quoteOnto (value : String) (k : List Char) : List Char :=
  '\'' :: (Text.escapeChars value.toList ++ '\'' :: k)

mutual

/-- The canonical text of an expression in front of `k`. -/
def canonicalOnto : Expr → List Char → List Char
  | .identifier name reserved, k => nameOnto name reserved k
  | .string value, k => quoteOnto value k
  | .integer text, k => text.toList ++ k
  | .decimal text, k => text.toList ++ k
  | .null, k => "null".toList ++ k
  | .boolean value, k => (if value then "true" else "false").toList ++ k
  | .list [], k => '[' :: ']' :: k
  | .list (e :: es), k => '[' :: canonicalOnto e (restOnto es (']' :: k))
  | .binary _ op left right, k =>
    '(' :: canonicalOnto left (' ' :: (op.toList ++ ' ' :: canonicalOnto right (')' :: k)))

/-- Further elements of a list in front of `k`, a comma before each. -/
def restOnto : List Expr → List Char → List Char
  | [], k => k
  | e :: es, k => ',' :: canonicalOnto e (restOnto es k)

end

/-- The canonical text of an expression. -/
def canonical (e : Expr) : String := String.ofList (canonicalOnto e [])

/-! ### What follows the text -/

theorem nameOnto_append (name : String) (reserved : Bool) (k : List Char) :
    nameOnto name reserved k = nameOnto name reserved [] ++ k := by
  cases reserved <;> simp [nameOnto]

theorem quoteOnto_append (value : String) (k : List Char) : quoteOnto value k = quoteOnto value [] ++ k := by
  simp [quoteOnto]

mutual

/-- The canonical text does not depend on what follows it. -/
theorem canonicalOnto_append (e : Expr) (k : List Char) : canonicalOnto e k = canonicalOnto e [] ++ k := by
  cases e with
  | identifier name reserved => exact nameOnto_append name reserved k
  | string value => exact quoteOnto_append value k
  | integer text => simp [canonicalOnto]
  | decimal text => simp [canonicalOnto]
  | null => simp [canonicalOnto]
  | boolean value => simp [canonicalOnto]
  | list elements =>
    cases elements with
    | nil => rfl
    | cons e es =>
      simp only [canonicalOnto]
      rw [canonicalOnto_append e, canonicalOnto_append e (restOnto es [']']), restOnto_append es,
        restOnto_append es [']']]
      simp
  | binary family op left right =>
    simp only [canonicalOnto]
    rw [canonicalOnto_append left, canonicalOnto_append left (_ :: _), canonicalOnto_append right,
      canonicalOnto_append right [')']]
    simp

theorem restOnto_append (es : List Expr) (k : List Char) : restOnto es k = restOnto es [] ++ k := by
  cases es with
  | nil => rfl
  | cons e es =>
    simp only [restOnto]
    rw [canonicalOnto_append e, canonicalOnto_append e (restOnto es []), restOnto_append es]
    simp

end

@[simp] theorem toList_canonical (e : Expr) : e.canonical.toList = canonicalOnto e [] := by simp [canonical]

end FilterLang.Expr
