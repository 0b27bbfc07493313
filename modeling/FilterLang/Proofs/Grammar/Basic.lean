import FilterLang.Parse.Rules

/-!
# The grammar

What the rules of the language say about token lists, without saying how to read them:

    expression  := disjunction
    disjunction := conjunction ( "or" conjunction )*
    conjunction := comparison ( "and" comparison )*
    comparison  := primary [ ( "eq" | "ne" | "lt" | "le" | "gt" | "ge" | "like" | "in" ) primary ]
    primary     := leaf | "(" expression ")" | "[" [ elements [ "," ] ] "]"
    elements    := expression ( "," expression )*

`Derives r ts e` says that the rule `r` derives the tree `e` from the whole of the token list `ts`. A disjunction and a
conjunction are both chains of a connective; the chain is written with its recursion on the left, so that the tree
nests to the left. The elements of a list stand for the tree of the list.
-/

namespace FilterLang.Grammar

/-- The rules. -/
inductive Rule where
  /-- Operands joined by a connective: a disjunction or a conjunction. -/
  | chain (c : Connective)
  /-- One operand, or two with an operator of equality or comparison between them. -/
  | comparison
  /-- A leaf, a list, or an expression in parentheses. -/
  | primary
  /-- Expressions with commas between them, at least one. -/
  | elements
  deriving DecidableEq, Repr

/-- The rule of what a connective joins. -/
def operand : Connective → Rule
  | .or => .chain .and
  | .and => .comparison

/-- The operator words that do not chain. -/
def relationWords : List String := ["eq", "ne", "lt", "le", "gt", "ge", "like", "in"]

/-- The token is an operator of equality or comparison, and of this family. -/
def Relates (t : Token) (family : Family) : Prop :=
  t.kind = .operator ∧ t.value ∈ relationWords ∧ Family.ofWord? t.value = some family

/-- The token is an expression by itself, with this tree. -/
inductive Leaf : Token → Expr → Prop where
  /-- The name of a field, reserved or not. -/
  | identifier {position : Nat} {name : String} :
      Leaf ⟨.identifier, position, name⟩ (.identifier name (isReservedWord name))
  /-- `null`. -/
  | null {position : Nat} {value : String} : Leaf ⟨.null, position, value⟩ .null
  /-- `true`. -/
  | true {position : Nat} {value : String} : Leaf ⟨.true, position, value⟩ (.boolean true)
  /-- `false`. -/
  | false {position : Nat} {value : String} : Leaf ⟨.false, position, value⟩ (.boolean false)
  /-- A number without a decimal point. -/
  | integer {position : Nat} {text : String} : Leaf ⟨.integer, position, text⟩ (.integer text)
  /-- A number with a decimal point. -/
  | decimal {position : Nat} {text : String} : Leaf ⟨.decimal, position, text⟩ (.decimal text)
  /-- A string. -/
  | string {position : Nat} {value : String} : Leaf ⟨.string, position, value⟩ (.string value)

/-- A rule derives a tree from a token list. -/
inductive Derives : Rule → List Token → Expr → Prop where
  /-- A chain with one operand. -/
  | operand {c : Connective} {ts : List Token} {e : Expr} : Derives (operand c) ts e → Derives (.chain c) ts e
  /-- A chain, the word of its connective, and one more operand. -/
  | join {c : Connective} {ls rs : List Token} {t : Token} {left right : Expr} :
      Derives (.chain c) ls left → t.isOperator c.word → Derives (Grammar.operand c) rs right →
        Derives (.chain c) (ls ++ t :: rs) (.binary c.family c.word left right)
  /-- A comparison with one operand. -/
  | primary {ts : List Token} {e : Expr} : Derives .primary ts e → Derives .comparison ts e
  /-- Two operands and an operator. -/
  | relate {ls rs : List Token} {t : Token} {family : Family} {left right : Expr} :
      Derives .primary ls left → Relates t family → Derives .primary rs right →
        Derives .comparison (ls ++ t :: rs) (.binary family t.value left right)
  /-- A single token. -/
  | leaf {t : Token} {e : Expr} : Leaf t e → Derives .primary [t] e
  /-- `( expression )`. -/
  | parens {a z : Token} {ts : List Token} {e : Expr} :
      a.kind = .parenOpen → Derives (.chain .or) ts e → z.kind = .parenClose → Derives .primary (a :: (ts ++ [z])) e
  /-- `[ ]`. -/
  | empty {a z : Token} : a.kind = .bracketOpen → z.kind = .bracketClose → Derives .primary [a, z] (.list [])
  /-- `[ elements ]`. -/
  | list {a z : Token} {ts : List Token} {e : Expr} :
      a.kind = .bracketOpen → Derives .elements ts e → z.kind = .bracketClose → Derives .primary (a :: (ts ++ [z])) e
  /-- `[ elements , ]`. -/
  | trailing {a s z : Token} {ts : List Token} {e : Expr} :
      a.kind = .bracketOpen → Derives .elements ts e → s.kind = .comma → z.kind = .bracketClose →
        Derives .primary (a :: (ts ++ [s, z])) e
  /-- The last element. -/
  | last {ts : List Token} {e : Expr} : Derives (.chain .or) ts e → Derives .elements ts (.list [e])
  /-- An element and, after a comma, the others. -/
  | more {ts rs : List Token} {s : Token} {e : Expr} {es : List Expr} :
      Derives (.chain .or) ts e → s.kind = .comma → Derives .elements rs (.list es) →
        Derives .elements (ts ++ s :: rs) (.list (e :: es))

/-- The whole token list is an expression, and this is its tree. -/
def Sentence (ts : List Token) (e : Expr) : Prop := Derives (.chain .or) ts e

/-! ### Tokens that decide -/

theorem isOperator_iff {t : Token} {word : String} : t.isOperator word ↔ t.kind = .operator ∧ t.value = word := by
  simp only [Token.isOperator, Bool.and_eq_true, beq_iff_eq]

theorem leaf?_eq_some_iff {t : Token} {e : Expr} : Parse.leaf? t = some e ↔ Leaf t e := by
  constructor
  · intro h
    obtain ⟨kind, position, value⟩ := t
    cases kind <;> simp only [Parse.leaf?, Option.some.injEq, reduceCtorEq] at h
    all_goals subst h
    · exact Leaf.identifier
    · exact Leaf.true
    · exact Leaf.false
    · exact Leaf.null
    · exact Leaf.string
    · exact Leaf.integer
    · exact Leaf.decimal
  · rintro (_ | _ | _ | _ | _ | _ | _) <;> rfl

/-- The relation words are the words of the families that do not chain. -/
theorem mem_relationWords_iff {word : String} :
    word ∈ relationWords ↔ ∃ family, Family.ofWord? word = some family ∧ family.isRelation := by
  constructor
  · intro h
    simp only [relationWords, List.mem_cons, List.not_mem_nil, or_false] at h
    rcases h with rfl | rfl | rfl | rfl | rfl | rfl | rfl | rfl <;> exact ⟨_, rfl, rfl⟩
  · rintro ⟨family, h, hr⟩
    unfold Family.ofWord? at h
    split at h <;> cases h <;> simp_all [relationWords, Family.isRelation]

theorem relation?_eq_some_iff {t : Token} {family : Family} : t.relation? = some family ↔ Relates t family := by
  unfold Token.relation? Relates
  split
  · next hk =>
    simp only [Option.filter_eq_some_iff, hk, true_and]
    constructor
    · rintro ⟨h, hr⟩
      exact ⟨mem_relationWords_iff.mpr ⟨family, h, hr⟩, h⟩
    · rintro ⟨hm, h⟩
      obtain ⟨family', h', hr⟩ := mem_relationWords_iff.mp hm
      rw [h, Option.some.injEq] at h'
      exact ⟨h, h' ▸ hr⟩
  · next hk => simp [hk]

/-- An operator that relates is no connective. -/
theorem Relates.not_isOperator {t : Token} {family : Family} (h : Relates t family) (c : Connective) :
    ¬ t.isOperator c.word := by
  obtain ⟨-, hm, -⟩ := h
  intro hc
  rw [(isOperator_iff.mp hc).2] at hm
  cases c <;> simp [relationWords, Connective.word] at hm

/-- A token that is an expression by itself is neither a bracket nor a comma nor an operator. -/
theorem Leaf.kind_ne {t : Token} {e : Expr} (h : Leaf t e) :
    t.kind ≠ .operator ∧ t.kind ≠ .comma ∧ t.kind ≠ .bracketOpen ∧ t.kind ≠ .bracketClose ∧ t.kind ≠ .parenOpen ∧
      t.kind ≠ .invalid := by
  cases h <;> simp

/-- A connective is the only word of its family. -/
theorem word_of_ofWord? {c : Connective} {word : String} (h : Family.ofWord? word = some c.family) : word = c.word := by
  unfold Family.ofWord? at h
  cases c <;> split at h <;> first | rfl | cases h

/-! ### From a primary to an expression -/

/-- A comparison is a chain of any connective. -/
theorem Derives.chain_of_comparison {ts : List Token} {e : Expr} (h : Derives .comparison ts e) (c : Connective) :
    Derives (.chain c) ts e := by
  have hand : Derives (.chain .and) ts e := .operand h
  cases c with
  | or => exact .operand hand
  | and => exact hand

theorem Derives.chain_of_primary {ts : List Token} {e : Expr} (h : Derives .primary ts e) (c : Connective) :
    Derives (.chain c) ts e :=
  (Derives.primary h).chain_of_comparison c

/-- A primary may stand wherever an operand may. -/
theorem Derives.operand_of_primary {ts : List Token} {e : Expr} (h : Derives .primary ts e) (c : Connective) :
    Derives (Grammar.operand c) ts e := by
  cases c with
  | or => exact h.chain_of_primary .and
  | and => exact .primary h

/-- Two primaries with an operator of any family between them are an expression. -/
theorem Derives.binary {family : Family} {op : String} {ls rs : List Token} {t : Token} {left right : Expr}
    (hl : Derives .primary ls left) (hkind : t.kind = .operator) (hvalue : t.value = op)
    (hop : Family.ofWord? op = some family) (hr : Derives .primary rs right) :
    Derives (.chain .or) (ls ++ t :: rs) (.binary family op left right) := by
  subst hvalue
  have hjoin : ∀ c : Connective, family = c.family →
      Derives (.chain c) (ls ++ t :: rs) (.binary family t.value left right) := by
    rintro c rfl
    have hword : t.value = c.word := word_of_ofWord? hop
    rw [hword]
    have ht : t.isOperator c.word := isOperator_iff.mpr ⟨hkind, hword⟩
    exact .join (hl.chain_of_primary c) ht (hr.operand_of_primary c)
  have hrelate : family.isRelation = true →
      Derives (.chain .or) (ls ++ t :: rs) (.binary family t.value left right) := by
    intro hrelation
    refine Derives.chain_of_comparison (.relate hl ⟨hkind, ?_, hop⟩ hr) .or
    exact mem_relationWords_iff.mpr ⟨family, hop, hrelation⟩
  cases family with
  | or => exact hjoin .or rfl
  | and => exact .operand (hjoin .and rfl)
  | equality => exact hrelate rfl
  | comparison => exact hrelate rfl

end FilterLang.Grammar
