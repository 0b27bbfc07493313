import FilterLang.Parse.Basic
import FilterLang.Proofs.Grammar.Basic

/-!
# Runs of the rules

What the reading functions do, step by step, as a relation. `Run task ts v` says that a task, begun with the tokens `ts`
at hand, ends with the verdict `v`. There is one case for each way a task can go, so a statement about reading is proved
by induction on a run.

No rule is ever entered at the end of the tokens: every step that goes into a rule has looked for a token before.
`run_iff` proves that the reading functions make these runs and no others.
-/

namespace FilterLang.Grammar

open Parse

/-- How a task ends, with the tokens that are unread then. -/
inductive Verdict where
  /-- Something was read. -/
  | accepted (e : Expr) (rest : List Token)
  /-- Something is wrong. -/
  | rejected (fault : Fault) (rest : List Token)

/-- What can be asked of a token list. -/
inductive Task where
  /-- To read what a rule derives. -/
  | read (rule : Rule)
  /-- To read further operands of a connective, and join them to the expression on their left. -/
  | further (c : Connective) (left : Expr)

/-- A task, the tokens at hand, and how it ends. -/
inductive Run : Task → List Token → Verdict → Prop where
  /-- The first operand of a chain is faulty. -/
  | operandFails {c : Connective} {ts k : List Token} {fault : Fault} :
      Run (.read (operand c)) ts (.rejected fault k) → Run (.read (.chain c)) ts (.rejected fault k)
  /-- The first operand of a chain is read, and then the others. -/
  | operand {c : Connective} {ts k : List Token} {left : Expr} {v : Verdict} :
      Run (.read (Grammar.operand c)) ts (.accepted left k) → Run (.further c left) k v → Run (.read (.chain c)) ts v
  /-- No token is left to join with. -/
  | exhausted {c : Connective} {left : Expr} : Run (.further c left) [] (.accepted left [])
  /-- The next token does not join. -/
  | stop {c : Connective} {left : Expr} {t : Token} {k : List Token} :
      ¬ t.isOperator c.word → Run (.further c left) (t :: k) (.accepted left (t :: k))
  /-- Nothing follows a connective. -/
  | joinMissing {c : Connective} {left : Expr} {t : Token} :
      t.isOperator c.word → Run (.further c left) [t] (.rejected (.operandMissing c.word) [])
  /-- The operand after a connective is faulty. -/
  | joinFails {c : Connective} {left : Expr} {t : Token} {ts k : List Token} {fault : Fault} :
      t.isOperator c.word → Run (.read (Grammar.operand c)) ts (.rejected fault k) →
        Run (.further c left) (t :: ts) (.rejected fault k)
  /-- The operand after a connective is read and joined. -/
  | join {c : Connective} {left right : Expr} {t : Token} {ts k : List Token} {v : Verdict} :
      t.isOperator c.word → Run (.read (Grammar.operand c)) ts (.accepted right k) →
        Run (.further c (.binary c.family c.word left right)) k v → Run (.further c left) (t :: ts) v
  /-- The first operand of a comparison is faulty. -/
  | firstFails {ts k : List Token} {fault : Fault} :
      Run (.read .primary) ts (.rejected fault k) → Run (.read .comparison) ts (.rejected fault k)
  /-- The first operand of a comparison is the last of the tokens. -/
  | only {ts : List Token} {e : Expr} :
      Run (.read .primary) ts (.accepted e []) → Run (.read .comparison) ts (.accepted e [])
  /-- The first operand of a comparison is followed by no operator that relates. -/
  | unrelated {ts k : List Token} {t : Token} {e : Expr} :
      Run (.read .primary) ts (.accepted e (t :: k)) → t.relation? = none →
        Run (.read .comparison) ts (.accepted e (t :: k))
  /-- Nothing follows an operator that relates. -/
  | relateMissing {ts : List Token} {t : Token} {family : Family} {left : Expr} :
      Run (.read .primary) ts (.accepted left [t]) → t.relation? = some family →
        Run (.read .comparison) ts (.rejected (.operandMissing t.value) [])
  /-- The operand after an operator that relates is faulty. -/
  | relateFails {ts us k : List Token} {t : Token} {family : Family} {left : Expr} {fault : Fault} :
      Run (.read .primary) ts (.accepted left (t :: us)) → t.relation? = some family →
        Run (.read .primary) us (.rejected fault k) → Run (.read .comparison) ts (.rejected fault k)
  /-- Two operands are related. -/
  | relate {ts us k : List Token} {t : Token} {family : Family} {left right : Expr} :
      Run (.read .primary) ts (.accepted left (t :: us)) → t.relation? = some family →
        Run (.read .primary) us (.accepted right k) →
          Run (.read .comparison) ts (.accepted (.binary family t.value left right) k)
  /-- A single token. -/
  | leaf {t : Token} {k : List Token} {e : Expr} : leaf? t = some e → Run (.read .primary) (t :: k) (.accepted e k)
  /-- No expression begins with the token. -/
  | unexpected {t : Token} {k : List Token} :
      leaf? t = none → t.kind ≠ .bracketOpen → t.kind ≠ .parenOpen →
        Run (.read .primary) (t :: k) (.rejected (.unexpected t) (t :: k))
  /-- Nothing follows an opening parenthesis. -/
  | parensMissing {a : Token} : a.kind = .parenOpen → Run (.read .primary) [a] (.rejected (.operandMissing "(") [])
  /-- The expression in parentheses is faulty. -/
  | parensFails {a : Token} {ts k : List Token} {fault : Fault} :
      a.kind = .parenOpen → Run (.read (.chain .or)) ts (.rejected fault k) →
        Run (.read .primary) (a :: ts) (.rejected fault k)
  /-- The tokens end before the closing parenthesis. -/
  | parensEnds {a : Token} {ts : List Token} {e : Expr} :
      a.kind = .parenOpen → Run (.read (.chain .or)) ts (.accepted e []) →
        Run (.read .primary) (a :: ts) (.rejected .endedEarly [])
  /-- Another token stands where the closing parenthesis is needed. -/
  | parensMismatch {a z : Token} {ts k : List Token} {e : Expr} :
      a.kind = .parenOpen → Run (.read (.chain .or)) ts (.accepted e (z :: k)) → z.kind ≠ .parenClose →
        Run (.read .primary) (a :: ts) (.rejected (.mismatch .parenClose z) (z :: k))
  /-- An expression in parentheses. -/
  | parens {a z : Token} {ts k : List Token} {e : Expr} :
      a.kind = .parenOpen → Run (.read (.chain .or)) ts (.accepted e (z :: k)) → z.kind = .parenClose →
        Run (.read .primary) (a :: ts) (.accepted e k)
  /-- Nothing follows an opening bracket. -/
  | listMissing {a : Token} : a.kind = .bracketOpen → Run (.read .primary) [a] (.rejected (.operandMissing "[") [])
  /-- The elements of a list are faulty. -/
  | listFails {a : Token} {ts k : List Token} {fault : Fault} :
      a.kind = .bracketOpen → Run (.read .elements) ts (.rejected fault k) →
        Run (.read .primary) (a :: ts) (.rejected fault k)
  /-- A list. -/
  | list {a z : Token} {ts k : List Token} {e : Expr} :
      a.kind = .bracketOpen → Run (.read .elements) ts (.accepted e (z :: k)) → z.kind = .bracketClose →
        Run (.read .primary) (a :: ts) (.accepted e k)
  /-- The closing bracket is at hand. -/
  | noElement {z : Token} {k : List Token} :
      z.kind = .bracketClose → Run (.read .elements) (z :: k) (.accepted (.list []) (z :: k))
  /-- An element is faulty. -/
  | elementFails {t : Token} {ts k : List Token} {fault : Fault} :
      t.kind ≠ .bracketClose → Run (.read (.chain .or)) (t :: ts) (.rejected fault k) →
        Run (.read .elements) (t :: ts) (.rejected fault k)
  /-- The tokens end after an element. -/
  | elementEnds {t : Token} {ts : List Token} {e : Expr} :
      t.kind ≠ .bracketClose → Run (.read (.chain .or)) (t :: ts) (.accepted e []) →
        Run (.read .elements) (t :: ts) (.rejected .endedEarly [])
  /-- The closing bracket follows an element. -/
  | lastElement {t z : Token} {ts k : List Token} {e : Expr} :
      t.kind ≠ .bracketClose → Run (.read (.chain .or)) (t :: ts) (.accepted e (z :: k)) → z.kind = .bracketClose →
        Run (.read .elements) (t :: ts) (.accepted (.list [e]) (z :: k))
  /-- An element is followed by a token that neither ends the list nor separates elements. -/
  | elementMismatch {t s : Token} {ts k : List Token} {e : Expr} :
      t.kind ≠ .bracketClose → Run (.read (.chain .or)) (t :: ts) (.accepted e (s :: k)) → s.kind ≠ .bracketClose →
        s.kind ≠ .comma → Run (.read .elements) (t :: ts) (.rejected (.mismatch .comma s) (s :: k))
  /-- Nothing follows a comma. -/
  | elementMissing {t s : Token} {ts : List Token} {e : Expr} :
      t.kind ≠ .bracketClose → Run (.read (.chain .or)) (t :: ts) (.accepted e [s]) → s.kind = .comma →
        Run (.read .elements) (t :: ts) (.rejected (.operandMissing ",") [])
  /-- What follows a comma is faulty. -/
  | moreFails {t s : Token} {ts us k : List Token} {e : Expr} {fault : Fault} :
      t.kind ≠ .bracketClose → Run (.read (.chain .or)) (t :: ts) (.accepted e (s :: us)) → s.kind = .comma →
        Run (.read .elements) us (.rejected fault k) → Run (.read .elements) (t :: ts) (.rejected fault k)
  /-- An element and a comma are followed by the other elements, or by the closing bracket. -/
  | moreElements {t s : Token} {ts us k : List Token} {e : Expr} {es : List Expr} :
      t.kind ≠ .bracketClose → Run (.read (.chain .or)) (t :: ts) (.accepted e (s :: us)) → s.kind = .comma →
        Run (.read .elements) us (.accepted (.list es) k) →
          Run (.read .elements) (t :: ts) (.accepted (.list (e :: es)) k)

/-- The verdict of an outcome. -/
def Verdict.ofOutcome {n : Nat} : Outcome Expr n → Verdict
  | .accepted e rest _ => .accepted e rest
  | .rejected fault rest => .rejected fault rest

@[simp] theorem Verdict.ofOutcome_weaken {m n : Nat} (h : m ≤ n) (outcome : Outcome Expr m) :
    ofOutcome (outcome.weaken h) = ofOutcome outcome := by
  cases outcome <;> rfl

theorem Verdict.ofOutcome_eq_accepted_iff {n : Nat} {outcome : Outcome Expr n} {e : Expr} {k : List Token} :
    ofOutcome outcome = .accepted e k ↔ ∃ shorter, outcome = .accepted e k shorter := by
  constructor
  · intro h
    cases outcome with
    | rejected fault rest => cases h
    | accepted e' rest shorter => cases h; exact ⟨shorter, rfl⟩
  · rintro ⟨shorter, rfl⟩
    rfl

theorem Verdict.ofOutcome_eq_rejected_iff {n : Nat} {outcome : Outcome Expr n} {fault : Fault} {k : List Token} :
    ofOutcome outcome = .rejected fault k ↔ outcome = .rejected fault k := by
  cases outcome <;> simp [ofOutcome]

theorem Verdict.ofOutcome_map_list_eq_accepted_iff {n : Nat} {outcome : Outcome (List Expr) n} {e : Expr}
    {k : List Token} :
    ofOutcome (outcome.map .list) = .accepted e k ↔ ∃ es shorter, outcome = .accepted es k shorter ∧ .list es = e := by
  constructor
  · intro h
    cases outcome with
    | rejected fault rest => cases h
    | accepted es rest shorter => cases h; exact ⟨es, shorter, rfl, rfl⟩
  · rintro ⟨es, shorter, rfl, rfl⟩
    rfl

theorem Verdict.ofOutcome_map_list_eq_rejected_iff {n : Nat} {outcome : Outcome (List Expr) n} {fault : Fault}
    {k : List Token} : ofOutcome (outcome.map .list) = .rejected fault k ↔ outcome = .rejected fault k := by
  cases outcome <;> simp [ofOutcome, Outcome.map]

/-! ### What an opening token decides -/

/-- A token that opens something is no expression by itself. -/
theorem leaf?_eq_none {a : Token} (ha : a.kind = .parenOpen ∨ a.kind = .bracketOpen) : leaf? a = none := by
  rcases ha with ha | ha <;> simp [leaf?, ha]

theorem primary_paren {a : Token} (ha : a.kind = .parenOpen) {ts : List Token} (hts : ts ≠ []) :
    primary (a :: ts) = (chain .or ts).closedBy .parenClose (Nat.le_add_right _ 2) := by
  have hl : leaf? a = none := leaf?_eq_none (.inl ha)
  simp only [primary, hl, ha, reduceCtorEq, if_false, if_true, hts]

theorem primary_bracket {a : Token} (ha : a.kind = .bracketOpen) (ts : List Token) :
    primary (a :: ts) = (list ts).weaken (Nat.le_succ _) := by
  have hl : leaf? a = none := leaf?_eq_none (.inr ha)
  simp only [primary, hl, ha, if_true]

theorem list_of_ne_nil {ts : List Token} (hts : ts ≠ []) :
    list ts = ((elements ts).closedBy .bracketClose (Nat.le_refl _)).map .list := by
  rw [list, if_neg hts]

/-- The reading function of a task returns this verdict. -/
def Performs : Task → List Token → Verdict → Prop
  | .read (.chain c), ts, v => Verdict.ofOutcome (chain c ts) = v
  | .read .comparison, ts, v => Verdict.ofOutcome (comparison ts) = v
  | .read .primary, ts, v => Verdict.ofOutcome (primary ts) = v
  | .read .elements, ts, v => Verdict.ofOutcome ((elements ts).map .list) = v
  | .further c left, ts, v => ∀ n (h : ts.length < n), Verdict.ofOutcome (chainRest c left ts h) = v

theorem performs_operand_iff {c : Connective} {ts : List Token} {v : Verdict} :
    Performs (.read (operand c)) ts v ↔ Verdict.ofOutcome (Parse.operand c ts) = v := by
  cases c <;> simp [Performs, Grammar.operand, Parse.operand]

/-! ### The reading functions make these runs -/

theorem Run.ne_nil {task : Task} {ts : List Token} {v : Verdict} (h : Run task ts v) {rule : Rule}
    (ht : task = .read rule) : ts ≠ [] := by
  induction h generalizing rule with
  | operandFails _ ih => exact ih rfl
  | operand _ _ ih _ => exact ih rfl
  | firstFails _ ih => exact ih rfl
  | only _ ih => exact ih rfl
  | unrelated _ _ ih => exact ih rfl
  | relateMissing _ _ ih => exact ih rfl
  | relateFails _ _ _ ih _ => exact ih rfl
  | relate _ _ _ ih _ => exact ih rfl
  | exhausted => cases ht
  | _ => simp

/-- The elements of a list are read up to its closing bracket. -/
theorem Run.elements_rest {ts k : List Token} {e : Expr} (h : Run (.read .elements) ts (.accepted e k)) :
    ∃ z k', k = z :: k' ∧ z.kind = .bracketClose := by
  generalize htask : Task.read .elements = task at h
  generalize hv : Verdict.accepted e k = v at h
  induction h generalizing e k with
  | noElement hz => cases hv; exact ⟨_, _, rfl, hz⟩
  | lastElement _ _ hz => cases hv; exact ⟨_, _, rfl, hz⟩
  | moreElements _ _ _ _ _ ih => cases hv; exact ih rfl rfl
  | _ => cases htask <;> cases hv

/-- What the reading functions return is the verdict of a run. The induction is on their recursion. -/
theorem runs :
    (∀ c ts, ts ≠ [] → Run (.read (.chain c)) ts (.ofOutcome (chain c ts))) ∧
    (∀ n c left ts (h : ts.length < n), Run (.further c left) ts (.ofOutcome (chainRest c left ts h))) ∧
    (∀ c ts, ts ≠ [] → Run (.read (operand c)) ts (.ofOutcome (Parse.operand c ts))) ∧
    (∀ ts, ts ≠ [] → Run (.read .comparison) ts (.ofOutcome (comparison ts))) ∧
    (∀ ts, ts ≠ [] → Run (.read .primary) ts (.ofOutcome (primary ts))) ∧
    (∀ ts a, a.kind = .bracketOpen → Run (.read .primary) (a :: ts) (.ofOutcome (list ts))) ∧
    (∀ ts, ts ≠ [] → Run (.read .elements) ts (.ofOutcome ((elements ts).map .list))) := by
  apply chain.mutual_induct
  case case1 =>
    intro c ts fault rest h ih hts
    rw [chain, h]
    rw [h] at ih
    exact .operandFails (ih hts)
  case case2 =>
    intro c ts left rest shorter h ih ih' hts
    rw [chain, h]
    rw [h] at ih
    exact .operand (ih hts) ih'
  case case3 =>
    intro n c left shorter _
    rw [chainRest]
    exact .exhausted
  case case4 =>
    intro n c left t ht shorter _
    rw [chainRest, if_pos ht, if_pos rfl]
    exact .joinMissing ht
  case case5 =>
    intro n c left t rest shorter ht hrest fault k h _ ih
    rw [chainRest, if_pos ht, if_neg hrest, h]
    rw [h] at ih
    exact .joinFails ht (ih hrest)
  case case6 =>
    intro n c left t rest shorter ht hrest right k shorter' h _ ih ih'
    rw [chainRest, if_pos ht, if_neg hrest, h]
    rw [h] at ih
    exact .join ht (ih hrest) ih'
  case case7 =>
    intro n c left t rest shorter ht _
    rw [chainRest, if_neg ht]
    exact .stop ht
  case case8 =>
    intro ts ih
    rw [Parse.operand]
    exact ih
  case case9 =>
    intro ts ih
    rw [Parse.operand]
    exact ih
  case case10 =>
    intro ts fault rest h ih hts
    rw [comparison, h]
    rw [h] at ih
    exact .firstFails (ih hts)
  case case11 =>
    intro ts left _ shorter h ih hts
    rw [comparison, h]
    rw [h] at ih
    exact .only (ih hts)
  case case12 =>
    intro ts left t rest _ ht shorter h ih hts
    rw [h] at ih
    simp only [comparison, h, ht]
    exact .unrelated (ih hts) ht
  case case13 =>
    intro ts left t family ht _ shorter h ih hts
    rw [h] at ih
    simp only [comparison, h, ht, if_pos]
    exact .relateMissing (ih hts) ht
  case case14 =>
    intro ts left t rest _ family ht hrest fault k h' shorter h ih ih' hts
    rw [h] at ih
    rw [h'] at ih'
    simp only [comparison, h, ht, hrest, if_false, h']
    exact .relateFails (ih hts) ht (ih' hrest)
  case case15 =>
    intro ts left t rest _ family ht hrest right k _ h' shorter h ih ih' hts
    rw [h] at ih
    rw [h'] at ih'
    simp only [comparison, h, ht, hrest, if_false, h']
    exact .relate (ih hts) ht (ih' hrest)
  case case16 => exact fun h => absurd rfl h
  case case17 =>
    intro t rest e ht _
    simp only [primary, ht]
    exact .leaf ht
  case case18 =>
    intro t rest _ hk ih _
    rw [primary_bracket hk, Verdict.ofOutcome_weaken]
    exact ih t hk
  case case19 =>
    intro t ht _ hp _
    simp only [primary, ht, hp, if_true]
    exact .parensMissing hp
  case case20 =>
    intro t rest _ _ hp hrest ih _
    rw [primary_paren hp hrest]
    have run := ih hrest
    cases hc : chain .or rest with
    | rejected fault k =>
      rw [hc] at run
      exact .parensFails hp run
    | accepted e k shorter =>
      rw [hc] at run
      cases k with
      | nil => exact .parensEnds hp run
      | cons z k =>
        by_cases hz : z.kind = .parenClose
        · simp only [Outcome.closedBy, hz, if_true]
          exact .parens hp run hz
        · simp only [Outcome.closedBy, hz, if_false]
          exact .parensMismatch hp run hz
  case case21 =>
    intro t rest ht hk hp _
    simp only [primary, ht, hk, hp, if_false]
    exact .unexpected ht hk hp
  case case22 =>
    intro a ha
    rw [list, if_pos rfl]
    exact .listMissing ha
  case case23 =>
    intro ts hts ih a ha
    rw [list_of_ne_nil hts]
    have run := ih hts
    cases he : elements ts with
    | rejected fault k =>
      rw [he] at run
      exact .listFails ha run
    | accepted es k shorter =>
      rw [he] at run
      obtain ⟨z, k, rfl, hz⟩ := run.elements_rest
      simp only [Outcome.closedBy, hz, if_true]
      exact .list ha run hz
  case case24 => exact fun h => absurd rfl h
  case case25 =>
    intro t rest ht _
    rw [elements, if_pos ht]
    exact .noElement ht
  case case26 =>
    intro t rest ht fault k h ih _
    rw [h] at ih
    rw [elements, if_neg ht, h]
    exact .elementFails ht (ih (List.cons_ne_nil _ _))
  case case27 =>
    intro t rest ht e _ shorter h ih _
    rw [h] at ih
    rw [elements, if_neg ht, h]
    exact .elementEnds ht (ih (List.cons_ne_nil _ _))
  case case28 =>
    intro t rest ht e z k _ hz shorter h ih _
    rw [h] at ih
    simp only [elements, ht, h, hz, if_true, if_false]
    exact .lastElement ht (ih (List.cons_ne_nil _ _)) hz
  case case29 =>
    intro t rest ht e s _ hc _ shorter h ih _
    rw [h] at ih
    simp only [elements, ht, h, hc, if_true, if_false]
    exact .elementMissing ht (ih (List.cons_ne_nil _ _)) hc
  case case30 =>
    intro t rest ht e s us _ _ hc hus shorter h ih ih' _
    rw [h] at ih
    have run := ih (List.cons_ne_nil _ _)
    have run' := ih' hus
    simp only [elements, ht, h, hc, hus, if_true, if_false]
    cases he : elements us with
    | rejected fault k =>
      rw [he] at run'
      exact .moreFails ht run hc run'
    | accepted es k shorter' =>
      rw [he] at run'
      exact .moreElements ht run hc run'
  case case31 =>
    intro t rest ht e s us _ hs hc shorter h ih _
    rw [h] at ih
    simp only [elements, ht, h, hs, hc, if_false]
    exact .elementMismatch ht (ih (List.cons_ne_nil _ _)) hs hc

/-! ### and no others -/

/-- A run tells what the reading function returns. -/
theorem Run.performs {task : Task} {ts : List Token} {v : Verdict} (h : Run task ts v) : Performs task ts v := by
  induction h with
  | operandFails _ ih =>
    rw [performs_operand_iff, Verdict.ofOutcome_eq_rejected_iff] at ih
    simp only [Performs, chain, ih, Verdict.ofOutcome]
  | operand _ _ ih ih' =>
    rw [performs_operand_iff, Verdict.ofOutcome_eq_accepted_iff] at ih
    obtain ⟨shorter, ih⟩ := ih
    simp only [Performs, chain, ih]
    exact ih' _ shorter
  | exhausted => intro n h; rw [chainRest]; rfl
  | stop ht => intro n h; rw [chainRest, if_neg ht]; rfl
  | joinMissing ht => intro n h; rw [chainRest, if_pos ht, if_pos rfl]; rfl
  | joinFails ht run ih =>
    intro n h
    rw [performs_operand_iff, Verdict.ofOutcome_eq_rejected_iff] at ih
    rw [chainRest, if_pos ht, if_neg (run.ne_nil rfl), ih]
    rfl
  | join ht run _ ih ih' =>
    intro n h
    rw [performs_operand_iff, Verdict.ofOutcome_eq_accepted_iff] at ih
    obtain ⟨shorter, ih⟩ := ih
    rw [chainRest, if_pos ht, if_neg (run.ne_nil rfl), ih]
    exact ih' _ _
  | firstFails _ ih =>
    rw [Performs, Verdict.ofOutcome_eq_rejected_iff] at ih
    simp only [Performs, comparison, ih, Verdict.ofOutcome]
  | only _ ih =>
    rw [Performs, Verdict.ofOutcome_eq_accepted_iff] at ih
    obtain ⟨shorter, ih⟩ := ih
    simp only [Performs, comparison, ih, Verdict.ofOutcome]
  | unrelated _ ht ih =>
    rw [Performs, Verdict.ofOutcome_eq_accepted_iff] at ih
    obtain ⟨shorter, ih⟩ := ih
    simp only [Performs, comparison, ih, ht, Verdict.ofOutcome]
  | relateMissing _ ht ih =>
    rw [Performs, Verdict.ofOutcome_eq_accepted_iff] at ih
    obtain ⟨shorter, ih⟩ := ih
    simp only [Performs, comparison, ih, ht, if_true, Verdict.ofOutcome]
  | relateFails _ ht run ih ih' =>
    rw [Performs, Verdict.ofOutcome_eq_accepted_iff] at ih
    rw [Performs, Verdict.ofOutcome_eq_rejected_iff] at ih'
    obtain ⟨shorter, ih⟩ := ih
    simp only [Performs, comparison, ih, ht, run.ne_nil rfl, if_false, ih', Verdict.ofOutcome]
  | relate _ ht run ih ih' =>
    rw [Performs, Verdict.ofOutcome_eq_accepted_iff] at ih ih'
    obtain ⟨shorter, ih⟩ := ih
    obtain ⟨shorter', ih'⟩ := ih'
    simp only [Performs, comparison, ih, ht, run.ne_nil rfl, if_false, ih', Verdict.ofOutcome]
  | leaf ht => simp only [Performs, primary, ht, Verdict.ofOutcome]
  | unexpected ht hk hp => simp only [Performs, primary, ht, hk, hp, if_false, Verdict.ofOutcome]
  | @parensMissing a ha =>
    have hl : leaf? a = none := leaf?_eq_none (.inl ha)
    simp only [Performs, primary, hl, ha, reduceCtorEq, if_false, if_true, Verdict.ofOutcome]
  | parensFails ha run ih =>
    rw [Performs, Verdict.ofOutcome_eq_rejected_iff] at ih
    rw [Performs, primary_paren ha (run.ne_nil rfl), ih]
    rfl
  | parensEnds ha run ih =>
    rw [Performs, Verdict.ofOutcome_eq_accepted_iff] at ih
    obtain ⟨shorter, ih⟩ := ih
    rw [Performs, primary_paren ha (run.ne_nil rfl), ih]
    rfl
  | parensMismatch ha run hz ih =>
    rw [Performs, Verdict.ofOutcome_eq_accepted_iff] at ih
    obtain ⟨shorter, ih⟩ := ih
    rw [Performs, primary_paren ha (run.ne_nil rfl), ih, Outcome.closedBy, if_neg hz]
    rfl
  | parens ha run hz ih =>
    rw [Performs, Verdict.ofOutcome_eq_accepted_iff] at ih
    obtain ⟨shorter, ih⟩ := ih
    rw [Performs, primary_paren ha (run.ne_nil rfl), ih, Outcome.closedBy, if_pos hz]
    rfl
  | listMissing ha =>
    rw [Performs, primary_bracket ha, Verdict.ofOutcome_weaken, Parse.list, if_pos rfl]
    rfl
  | listFails ha run ih =>
    rw [Performs, Verdict.ofOutcome_map_list_eq_rejected_iff] at ih
    rw [Performs, primary_bracket ha, Verdict.ofOutcome_weaken, list_of_ne_nil (run.ne_nil rfl), ih]
    rfl
  | list ha run hz ih =>
    rw [Performs, Verdict.ofOutcome_map_list_eq_accepted_iff] at ih
    obtain ⟨es, shorter, ih, rfl⟩ := ih
    rw [Performs, primary_bracket ha, Verdict.ofOutcome_weaken, list_of_ne_nil (run.ne_nil rfl), ih, Outcome.closedBy,
      if_pos hz]
    rfl
  | noElement hz => simp only [Performs, elements, hz, if_true, Outcome.map, Verdict.ofOutcome]
  | elementFails ht _ ih =>
    rw [Performs, Verdict.ofOutcome_eq_rejected_iff] at ih
    simp only [Performs, elements, ht, if_false, ih, Outcome.map, Verdict.ofOutcome]
  | elementEnds ht _ ih =>
    rw [Performs, Verdict.ofOutcome_eq_accepted_iff] at ih
    obtain ⟨shorter, ih⟩ := ih
    simp only [Performs, elements, ht, if_false, ih, Outcome.map, Verdict.ofOutcome]
  | lastElement ht _ hz ih =>
    rw [Performs, Verdict.ofOutcome_eq_accepted_iff] at ih
    obtain ⟨shorter, ih⟩ := ih
    simp only [Performs, elements, ht, if_false, ih, hz, if_true, Outcome.map, Verdict.ofOutcome]
  | elementMismatch ht _ hz hs ih =>
    rw [Performs, Verdict.ofOutcome_eq_accepted_iff] at ih
    obtain ⟨shorter, ih⟩ := ih
    simp only [Performs, elements, ht, if_false, ih, hz, hs, Outcome.map, Verdict.ofOutcome]
  | elementMissing ht _ hs ih =>
    rw [Performs, Verdict.ofOutcome_eq_accepted_iff] at ih
    obtain ⟨shorter, ih⟩ := ih
    simp [Performs, elements, ht, ih, hs, Outcome.map, Verdict.ofOutcome]
  | moreFails ht _ hs run ih ih' =>
    rw [Performs, Verdict.ofOutcome_eq_accepted_iff] at ih
    rw [Performs, Verdict.ofOutcome_map_list_eq_rejected_iff] at ih'
    obtain ⟨shorter, ih⟩ := ih
    simp only [Performs, elements, ht, ih, hs, run.ne_nil rfl, reduceCtorEq, if_false, if_true, ih']
    rfl
  | moreElements ht _ hs run ih ih' =>
    rw [Performs, Verdict.ofOutcome_eq_accepted_iff] at ih
    rw [Performs, Verdict.ofOutcome_map_list_eq_accepted_iff] at ih'
    obtain ⟨shorter, ih⟩ := ih
    obtain ⟨es, shorter', ih', heq⟩ := ih'
    cases heq
    simp only [Performs, elements, ht, ih, hs, run.ne_nil rfl, reduceCtorEq, if_false, if_true, ih']
    rfl

/-- **A rule's runs are its readings**: a run of a rule is what the rule's reading function makes of a token list that
holds a token. -/
theorem run_iff {rule : Rule} {ts : List Token} {v : Verdict} :
    Run (.read rule) ts v ↔ ts ≠ [] ∧ Performs (.read rule) ts v := by
  constructor
  · exact fun h => ⟨h.ne_nil rfl, h.performs⟩
  · rintro ⟨hts, h⟩
    obtain ⟨hchain, -, -, hcomparison, hprimary, -, helements⟩ := runs
    cases rule with
    | chain c => exact h ▸ hchain c ts hts
    | comparison => exact h ▸ hcomparison ts hts
    | primary => exact h ▸ hprimary ts hts
    | elements => exact h ▸ helements ts hts

end FilterLang.Grammar
