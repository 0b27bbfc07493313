import FilterLang.Proofs.Grammar.Basic
import FilterLang.Proofs.Scan.Munch

/-!
# Well-formed expressions

An expression is well-formed if every name in it can be written and is marked as reserved just if it is, every number
is spelled as one, and every operator is a word of the family it is put under. What is derived from the tokens of a text
is well-formed (`Sentence.wellFormed`), since the tokens are spelled as their kinds say.
-/

namespace FilterLang

open FilterLang.Text

/-- Every name, number and operator of an expression is one. -/
inductive Expr.WellFormed : Expr → Prop where
  /-- A name, marked as reserved just if it is. -/
  | identifier {name : String} : IsName name.toList → WellFormed (.identifier name (isReservedWord name))
  /-- Any string. -/
  | string {value : String} : WellFormed (.string value)
  /-- An integer. -/
  | integer {text : String} : IsInteger text.toList → WellFormed (.integer text)
  /-- A decimal. -/
  | decimal {text : String} : IsDecimal text.toList → WellFormed (.decimal text)
  /-- The missing value. -/
  | null : WellFormed .null
  /-- A truth value. -/
  | boolean {value : Bool} : WellFormed (.boolean value)
  /-- Well-formed elements. -/
  | list {es : List Expr} : (∀ e ∈ es, WellFormed e) → WellFormed (.list es)
  /-- Well-formed operands and an operator of the family. -/
  | binary {family : Family} {op : String} {left right : Expr} :
      Family.ofWord? op = some family → WellFormed left → WellFormed right →
        WellFormed (.binary family op left right)

namespace Grammar

theorem Leaf.wellFormed {t : Token} {e : Expr} (h : Leaf t e) (ht : Lexeme.Spelled t.kind t.value.toList) :
    e.WellFormed := by
  cases h with
  | identifier => exact .identifier ht
  | null => exact .null
  | true => exact .boolean
  | false => exact .boolean
  | integer => exact .integer ht
  | decimal => exact .decimal ht
  | string => exact .string

/-- Every rule makes a well-formed tree of well-spelled tokens. -/
theorem Derives.wellFormed {r : Rule} {ts : List Token} {e : Expr} (h : Derives r ts e)
    (hts : ∀ t ∈ ts, Lexeme.Spelled t.kind t.value.toList) : e.WellFormed := by
  induction h with
  | operand _ ih => exact ih hts
  | @join c ls rs t left right _ _ _ ihl ihr =>
    rw [List.forall_mem_append, List.forall_mem_cons] at hts
    exact .binary (Family.ofWord?_word c) (ihl hts.1) (ihr hts.2.2)
  | primary _ ih => exact ih hts
  | relate _ ht _ ihl ihr =>
    rw [List.forall_mem_append, List.forall_mem_cons] at hts
    obtain ⟨-, -, hfamily⟩ := ht
    exact .binary hfamily (ihl hts.1) (ihr hts.2.2)
  | @leaf t e h => exact h.wellFormed (hts t List.mem_cons_self)
  | parens _ _ _ ih =>
    rw [List.forall_mem_cons, List.forall_mem_append] at hts
    exact ih hts.2.1
  | empty => exact .list (by simp)
  | list _ _ _ ih =>
    rw [List.forall_mem_cons, List.forall_mem_append] at hts
    exact ih hts.2.1
  | trailing _ _ _ _ ih =>
    rw [List.forall_mem_cons, List.forall_mem_append] at hts
    exact ih hts.2.1
  | last _ ih => exact .list (List.forall_mem_cons.mpr ⟨ih hts, by simp⟩)
  | more _ _ _ ih ihs =>
    rw [List.forall_mem_append, List.forall_mem_cons] at hts
    have hes := ihs hts.2.2
    cases hes with
    | list hes => exact .list (List.forall_mem_cons.mpr ⟨ih hts.1, hes⟩)

/-- An expression that a text is read as is well-formed. -/
theorem Sentence.wellFormed {offset : Nat} {text : String} {e : Expr} (h : Sentence (tokensAt offset text) e) :
    e.WellFormed :=
  Derives.wellFormed h fun _ => Scan.spelled

end Grammar

end FilterLang
