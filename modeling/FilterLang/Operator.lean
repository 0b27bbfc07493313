/-!
# Operators and reserved words

The reserved words of the language are the three literals `null`, `true`, `false` and the operator words. None of them
can name a field as it stands; `@` in front of it makes a name of it.

Every binary operator belongs to a family, which says by which rule of the grammar it joins its operands: the two
connectives chain, equality and comparison do not. The operator itself is kept as the word that was written.
-/

namespace FilterLang

/-! ### Reserved words -/

/-- The operator words. `not` is among them although no rule of the grammar uses it. -/
def operatorWords : List String :=
  ["eq", "ne", "lt", "gt", "le", "ge", "like", "in", "not", "and", "or"]

/-- The words that cannot name a field unless `@` precedes them. -/
def reservedWords : List String := "null" :: "true" :: "false" :: operatorWords

/-- Whether a word is an operator when it is written bare. -/
def isOperatorWord (word : String) : Bool := operatorWords.contains word

/-- Whether a word needs `@` to be a name. -/
def isReservedWord (word : String) : Bool := reservedWords.contains word

/-! ### Binary operators -/

/-- The operators that may be chained, from loosest to tightest. -/
inductive Connective where
  /-- Either side holds. -/
  | or
  /-- Both sides hold. -/
  | and
  deriving DecidableEq, Repr

/-- The families of binary operators. -/
inductive Family where
  /-- `or`. -/
  | or
  /-- `and`. -/
  | and
  /-- `eq` and `ne`. -/
  | equality
  /-- `lt`, `le`, `gt`, `ge`, `like` and `in`. -/
  | comparison
  deriving DecidableEq, Repr

/-- The word a connective is written with. -/
def Connective.word : Connective → String
  | .or => "or"
  | .and => "and"

/-- The family a connective makes up on its own. -/
def Connective.family : Connective → Family
  | .or => .or
  | .and => .and

/-- The name of a family in output. -/
def Family.name : Family → String
  | .or => "or"
  | .and => "and"
  | .equality => "equality"
  | .comparison => "comparison"

/-- The family of an operator word. `not` has no binary form, so it has none, like any word that is no operator. -/
def Family.ofWord? : String → Option Family
  | "or" => some .or
  | "and" => some .and
  | "eq" => some .equality
  | "ne" => some .equality
  | "lt" => some .comparison
  | "le" => some .comparison
  | "gt" => some .comparison
  | "ge" => some .comparison
  | "like" => some .comparison
  | "in" => some .comparison
  | _ => none

/-- The families whose operators stand at most once between two operands. -/
def Family.isRelation : Family → Bool
  | .or => false
  | .and => false
  | .equality => true
  | .comparison => true

@[simp] theorem Family.ofWord?_word (c : Connective) : Family.ofWord? c.word = some c.family := by
  cases c <;> rfl

end FilterLang
