import FilterLang.Expr.Basic
import FilterLang.Fault

/-!
# The rules of the grammar

    expression  := disjunction
    disjunction := conjunction ( "or" conjunction )*
    conjunction := comparison ( "and" comparison )*
    comparison  := primary [ ( "eq" | "ne" | "lt" | "le" | "gt" | "ge" | "like" | "in" ) primary ]
    primary     := identifier | null | true | false | integer | decimal | string
                 | "[" ( expression ( "," expression )* [ "," ] )? "]"
                 | "(" expression ")"

## The model

Each rule reads an expression from the front of a token list and decides by the token at hand alone. It either accepts,
with the expression and the tokens after it, or it rejects, with a fault and the tokens that were still unread when the
fault was found. The connectives share one rule, `chain`, since they differ in their word and in what they join only.

An accepting rule has read at least one token. `Outcome` carries the proof, and the recursion ends because of it: on
the way from one rule into the next either a token is read or the rule's rank goes down.
-/

namespace FilterLang.Parse

/-- How a rule ends. Fewer than `bound` tokens are left when it accepts. -/
inductive Outcome (α : Type) (bound : Nat) where
  /-- What was read, and the tokens after it. -/
  | accepted (value : α) (rest : List Token) (shorter : rest.length < bound)
  /-- Why nothing could be read, and the tokens unread at that point. -/
  | rejected (fault : Fault) (rest : List Token)

namespace Outcome

variable {α β : Type} {m n : Nat}

/-- Changes what was read. -/
def map (f : α → β) : Outcome α n → Outcome β n
  | .accepted value rest shorter => .accepted (f value) rest shorter
  | .rejected fault rest => .rejected fault rest

/-- The same outcome under a larger bound. -/
def weaken (h : m ≤ n) : Outcome α m → Outcome α n
  | .accepted value rest shorter => .accepted value rest (Nat.lt_of_lt_of_le shorter h)
  | .rejected fault rest => .rejected fault rest

/-- Requires a token of the given kind after what was read, and reads it too. -/
def closedBy (kind : Token.Kind) (h : m ≤ n + 1) : Outcome α m → Outcome α n
  | .rejected fault rest => .rejected fault rest
  | .accepted _ [] _ => .rejected .endedEarly []
  | .accepted value (t :: rest) shorter =>
    if t.kind = kind then .accepted value rest (Nat.lt_of_succ_lt_succ (Nat.lt_of_lt_of_le shorter h))
    else .rejected (.mismatch kind t) (t :: rest)

end Outcome

/-- Which of two rules may enter the other without reading a token: the one of higher rank. -/
@[simp] def rank : Connective → Nat
  | .or => 4
  | .and => 2

/-- The expression of a token that is an expression by itself. -/
def leaf? (t : Token) : Option Expr :=
  match t.kind with
  | .identifier => some (.identifier t.value t.isReserved)
  | .null => some .null
  | .true => some (.boolean true)
  | .false => some (.boolean false)
  | .integer => some (.integer t.value)
  | .decimal => some (.decimal t.value)
  | .string => some (.string t.value)
  | _ => none

mutual

/-- Operands of a connective, joined from left to right. -/
def chain (c : Connective) (ts : List Token) : Outcome Expr ts.length :=
  match operand c ts with
  | .rejected fault rest => .rejected fault rest
  | .accepted left rest shorter => chainRest c left rest shorter
termination_by (ts.length, rank c + 1)

/-- What a connective joins: `or` joins chains of `and`, and `and` joins comparisons. -/
def operand (c : Connective) (ts : List Token) : Outcome Expr ts.length :=
  match c with
  | .or => chain .and ts
  | .and => comparison ts
termination_by (ts.length, rank c)

/-- Further operands of a connective, to be joined to the expression on their left. -/
def chainRest {n : Nat} (c : Connective) (left : Expr) (ts : List Token) (shorter : ts.length < n) :
    Outcome Expr n :=
  match ts with
  | [] => .accepted left [] shorter
  | t :: rest =>
    if t.isOperator c.word then
      if rest = [] then .rejected (.operandMissing c.word) []
      else
        match operand c rest with
        | .rejected fault rest => .rejected fault rest
        | .accepted right rest' h =>
          chainRest c (.binary c.family c.word left right) rest' (by
            simp only [List.length_cons] at shorter
            omega)
    else .accepted left (t :: rest) shorter
termination_by (ts.length, 0)

/-- An operand, or two operands with one operator of equality or comparison between them. -/
def comparison (ts : List Token) : Outcome Expr ts.length :=
  match primary ts with
  | .rejected fault rest => .rejected fault rest
  | .accepted left rest shorter =>
    match rest, shorter with
    | [], shorter => .accepted left [] shorter
    | t :: rest, shorter =>
      match t.relation? with
      | none => .accepted left (t :: rest) shorter
      | some family =>
        if rest = [] then .rejected (.operandMissing t.value) []
        else
          match primary rest with
          | .rejected fault rest => .rejected fault rest
          | .accepted right rest' h =>
            .accepted (.binary family t.value left right) rest' (by
              simp only [List.length_cons] at shorter
              omega)
termination_by (ts.length, 1)
decreasing_by
  · exact Prod.Lex.right _ (by decide)
  · exact Prod.Lex.left _ _ (Nat.lt_of_succ_lt shorter)

/-- A single token, a list in brackets, or an expression in parentheses. -/
def primary (ts : List Token) : Outcome Expr ts.length :=
  match ts with
  | [] => .rejected .endedEarly []
  | t :: rest =>
    match leaf? t with
    | some e => .accepted e rest (Nat.lt_succ_self _)
    | none =>
      if t.kind = .bracketOpen then (list rest).weaken (Nat.le_succ _)
      else if t.kind = .parenOpen then
        if rest = [] then .rejected (.operandMissing "(") []
        else (chain .or rest).closedBy .parenClose (Nat.le_add_right _ 2)
      else .rejected (.unexpected t) (t :: rest)
termination_by (ts.length, 0)

/-- A list, after its opening bracket. -/
def list (ts : List Token) : Outcome Expr ts.length :=
  if ts = [] then .rejected (.operandMissing "[") []
  else ((elements ts).closedBy .bracketClose (Nat.le_refl _)).map .list
termination_by (ts.length, 7)

/-- The elements of a list up to its closing bracket, which is left unread. A comma may follow the last of them. -/
def elements (ts : List Token) : Outcome (List Expr) (ts.length + 1) :=
  match ts with
  | [] => .accepted [] [] (Nat.lt_succ_self _)
  | t :: rest =>
    if t.kind = .bracketClose then .accepted [] (t :: rest) (Nat.lt_succ_self _)
    else
      match chain .or (t :: rest) with
      | .rejected fault rest => .rejected fault rest
      | .accepted e rest' h =>
        match rest', h with
        | [], _ => .rejected .endedEarly []
        | s :: rest', h =>
          if s.kind = .bracketClose then .accepted [e] (s :: rest') (Nat.lt_succ_of_lt h)
          else if s.kind = .comma then
            if rest' = [] then .rejected (.operandMissing ",") []
            else
              ((elements rest').map (e :: ·)).weaken (by
                simp only [List.length_cons] at h ⊢
                omega)
          else .rejected (.mismatch .comma s) (s :: rest')
termination_by (ts.length, 6)
decreasing_by
  · exact Prod.Lex.right _ (by decide)
  · exact Prod.Lex.left _ _ (Nat.lt_of_succ_lt h)

end

end FilterLang.Parse
