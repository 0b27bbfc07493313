import FilterLang.Proofs.Grammar.Lookahead

/-!
# Reading with a cursor

The rules of the grammar as the steps of a machine. Its state is a cursor: the token list, the index of the token at
hand, and the diagnostics so far. A rule moves the cursor on while it reads. A rule that fails records a diagnostic and
gives up, and so does the rule that has entered it.

Nothing that a rule looks at says that it will come to an end. The rules enter each other in a circle, and they go on as
long as there is another connective or another element. So the machine has a limit to how deep primaries may stand in
each other and to how often a loop may go round. Beyond the limit there is no result. That the limit is never reached if
it is larger than the number of the unread tokens is a matter of proof.

`IsAt` says which tokens are unread. The lemmas after it tell what each step does with them, so that no proof about the
rules has to count.
-/

namespace FilterLang.Grammar

/-- The state of reading. -/
structure Cursor where
  /-- The position at which the input starts. -/
  start : Nat
  /-- All tokens, read or not. -/
  tokens : List Token
  /-- How many of them have been read. -/
  index : Nat
  /-- What has been found wrong, in the order in which it was found. -/
  diagnostics : List Diagnostic
  deriving DecidableEq, Repr

/-- A step of reading. It returns what was read, or it gives up, and in both cases it leaves a cursor behind. The
`Option` is for the limit: beyond it there is neither. -/
abbrev Action (α : Type) := ExceptT Unit (StateT Cursor Option) α

/-- How an action ends that is begun with this cursor. -/
def Action.runFrom {α : Type} (act : Action α) (s : Cursor) : Option (Except Unit α × Cursor) := act.run.run s

namespace Cursor

/-- The token at hand. -/
def current? (s : Cursor) : Option Token := s.tokens[s.index]?

/-- No token is left. -/
def atEnd (s : Cursor) : Bool := s.tokens.length ≤ s.index

/-- Goes on to the next token, if there is a token at hand. -/
def advance (s : Cursor) : Cursor := if s.atEnd then s else { s with index := s.index + 1 }

/-- The token at hand, or the last one if none is left. -/
def lastSeen? (s : Cursor) : Option Token := s.current?.or s.tokens.getLast?

/-- Records a diagnostic for a fault. -/
def record (fault : Fault) (s : Cursor) : Cursor :=
  { s with diagnostics := s.diagnostics ++ [⟨s.lastSeen?.getD (.startOfInput s.start), fault.message⟩] }

/-- Records a fault and gives up. -/
def fail {α : Type} (fault : Fault) : Action α := do
  modify (record fault)
  throw ()

/-- Goes on to the next token, which has to be there. -/
def advanceOrFail (fault : Fault) : Action Unit := do
  modify advance
  if (← get).atEnd then fail fault

/-- Requires the token at hand to be of this kind, and leaves it unread. -/
def expect (kind : Token.Kind) : Action Unit := do
  match (← get).current? with
  | none => fail .endedEarly
  | some t => if t.kind = kind then return () else fail (.mismatch kind t)

/-- The limit has been reached. -/
def beyond {α : Type} : Action α := ExceptT.mk fun _ => none

/-- Further operands of a connective, as long as its word is at hand. -/
def further (c : Connective) (operand : Action Expr) : Nat → Expr → Action Expr
  | 0, _ => beyond
  | limit + 1, left => do
    if (← get).current?.any (·.isOperator c.word) then
      advanceOrFail (.operandMissing c.word)
      let right ← operand
      further c operand limit (.binary c.family c.word left right)
    else
      return left

/-- Operands of a connective, joined from left to right. -/
def joining (c : Connective) (operand : Action Expr) (limit : Nat) : Action Expr := do
  let left ← operand
  further c operand limit left

/-- A primary, or two with one operator of equality or comparison between them. -/
def comparison (primary : Action Expr) : Action Expr := do
  let left ← primary
  match (← get).current? with
  | none => return left
  | some t =>
    match t.relation? with
    | none => return left
    | some family =>
      advanceOrFail (.operandMissing t.value)
      let right ← primary
      return .binary family t.value left right

/-- What a connective joins. -/
def operand (primary : Action Expr) (limit : Nat) : Connective → Action Expr
  | .or => joining .and (comparison primary) limit
  | .and => comparison primary

/-- A disjunction or a conjunction. -/
def chain (primary : Action Expr) (limit : Nat) (c : Connective) : Action Expr :=
  joining c (operand primary limit c) limit

/-- The elements of a list, as long as there is a token at hand that is no closing bracket. -/
def elements (element : Action Expr) : Nat → Action (List Expr)
  | 0 => beyond
  | limit + 1 => do
    if (← get).current?.all (·.kind = .bracketClose) then
      return []
    else
      let e ← element
      if (← get).current?.any (·.kind = .bracketClose) then
        return [e]
      else
        expect .comma
        advanceOrFail (.operandMissing ",")
        let es ← elements element limit
        return e :: es

/-- A list from its opening bracket on. The closing bracket is left unread. -/
def list (element : Action Expr) (limit : Nat) : Action Expr := do
  advanceOrFail (.operandMissing "[")
  let es ← elements element limit
  expect .bracketClose
  return .list es

/-- What begins with the token at hand, up to its last token, which is left unread. -/
def opened (expression : Action Expr) (limit : Nat) (t : Token) : Action Expr :=
  match Parse.leaf? t with
  | some e => return e
  | none =>
    if t.kind = .bracketOpen then list expression limit
    else if t.kind = .parenOpen then do
      advanceOrFail (.operandMissing "(")
      let e ← expression
      expect .parenClose
      return e
    else fail (.unexpected t)

/-- A single token, a list in brackets, or an expression in parentheses. -/
def primary : Nat → Action Expr
  | 0 => beyond
  | limit + 1 => do
    match (← get).current? with
    | none => fail .endedEarly
    | some t =>
      let e ← opened (chain (primary limit) limit .or) limit t
      -- the token itself, or what closes a list or parentheses
      modify advance
      return e

/-- All tokens as one expression. -/
def expression (limit : Nat) : Action Expr := do
  if (← get).atEnd then
    fail .empty
  else
    let e ← chain (primary limit) limit .or
    if (← get).atEnd then return e else fail .leftover

/-! ### Running actions -/

section

variable {α β : Type} {s s' : Cursor} {act act' : Action α} {f f' : α → Action β}

@[simp] theorem runFrom_pure (a : α) (s : Cursor) : Action.runFrom (pure a) s = some (.ok a, s) := rfl

@[simp] theorem runFrom_fail (fault : Fault) (s : Cursor) :
    (fail fault : Action α).runFrom s = some (.error (), s.record fault) := rfl

@[simp] theorem runFrom_get_bind (f : Cursor → Action α) (s : Cursor) :
    Action.runFrom (get >>= f) s = (f s).runFrom s := rfl

@[simp] theorem runFrom_modify_bind (move : Cursor → Cursor) (f : Unit → Action α) (s : Cursor) :
    Action.runFrom (modify move >>= f) s = (f ()).runFrom (move s) := rfl

theorem runFrom_bind_of_ok {a : α} (h : act.runFrom s = some (.ok a, s')) :
    Action.runFrom (act >>= f) s = (f a).runFrom s' := by
  simp only [Action.runFrom, ExceptT.run_bind, StateT.run_bind] at h ⊢
  rw [h]
  rfl

theorem runFrom_bind_of_error (h : act.runFrom s = some (.error (), s')) :
    Action.runFrom (act >>= f) s = some (.error (), s') := by
  simp only [Action.runFrom, ExceptT.run_bind, StateT.run_bind] at h ⊢
  rw [h]
  rfl

theorem runFrom_bind_of_none (h : act.runFrom s = none) : Action.runFrom (act >>= f) s = none := by
  simp only [Action.runFrom, ExceptT.run_bind, StateT.run_bind] at h ⊢
  rw [h]
  rfl

/-- Actions that begin alike and go on alike do the same. -/
theorem runFrom_bind_congr (h : act.runFrom s = act'.runFrom s)
    (hf : ∀ a s', act'.runFrom s = some (.ok a, s') → (f a).runFrom s' = (f' a).runFrom s') :
    Action.runFrom (act >>= f) s = Action.runFrom (act' >>= f') s := by
  cases hact : act'.runFrom s with
  | none => rw [runFrom_bind_of_none hact, runFrom_bind_of_none (h.trans hact)]
  | some ending =>
    obtain ⟨result, s'⟩ := ending
    cases result with
    | error => rw [runFrom_bind_of_error hact, runFrom_bind_of_error (h.trans hact)]
    | ok a => rw [runFrom_bind_of_ok hact, runFrom_bind_of_ok (h.trans hact), hf a s' hact]

/-- If two actions in a row return something, so has the first of them. -/
theorem exists_of_runFrom_bind {b : β} (h : Action.runFrom (act >>= f) s = some (.ok b, s')) :
    ∃ a s₁, act.runFrom s = some (.ok a, s₁) ∧ (f a).runFrom s₁ = some (.ok b, s') := by
  cases hact : act.runFrom s with
  | none =>
    rw [runFrom_bind_of_none hact] at h
    cases h
  | some ending =>
    obtain ⟨result, s₁⟩ := ending
    cases result with
    | error =>
      rw [runFrom_bind_of_error hact] at h
      cases h
    | ok a =>
      rw [runFrom_bind_of_ok hact] at h
      exact ⟨a, s₁, rfl, h⟩

end

/-! ### The unread tokens -/

/-- The tokens that are unread. -/
def unread (s : Cursor) : List Token := s.tokens.drop s.index

/-- The cursor has not run past the tokens, and these are unread. -/
def IsAt (s : Cursor) (ts : List Token) : Prop := ∃ read, s.tokens = read ++ ts ∧ s.index = read.length

/-- The cursor, moved to where these tokens are unread. -/
def leaving (s : Cursor) (k : List Token) : Cursor := { s with index := s.tokens.length - k.length }

variable {s : Cursor} {t : Token} {ts k : List Token}

theorem isAt_unread (h : s.index ≤ s.tokens.length) : s.IsAt s.unread :=
  ⟨s.tokens.take s.index, (List.take_append_drop ..).symm, (List.length_take_of_le h).symm⟩

theorem IsAt.unread_eq (h : s.IsAt ts) : s.unread = ts := by
  obtain ⟨read, htokens, hindex⟩ := h
  rw [unread, htokens, hindex, List.drop_left]

theorem IsAt.index_add (h : s.IsAt ts) : s.index + ts.length = s.tokens.length := by
  obtain ⟨read, htokens, hindex⟩ := h
  rw [htokens, hindex, List.length_append]

theorem IsAt.current?_eq (h : s.IsAt ts) : s.current? = ts.head? := by
  obtain ⟨read, htokens, hindex⟩ := h
  rw [current?, htokens, hindex, List.getElem?_append_right (Nat.le_refl _), Nat.sub_self, List.head?_eq_getElem?]

theorem IsAt.atEnd_iff (h : s.IsAt ts) : s.atEnd = true ↔ ts = [] := by
  have hlength := h.index_add
  rw [atEnd, decide_eq_true_iff, ← List.length_eq_zero_iff]
  omega

theorem IsAt.leaving_eq (h : s.IsAt ts) : s.leaving ts = s := by
  have hindex : s.tokens.length - ts.length = s.index := Nat.sub_eq_of_eq_add h.index_add.symm
  rw [leaving, hindex]

theorem IsAt.leaving (h : s.IsAt ts) (hk : k <:+ ts) : (s.leaving k).IsAt k := by
  obtain ⟨read, htokens, -⟩ := h
  obtain ⟨front, rfl⟩ := hk
  refine ⟨read ++ front, by rw [List.append_assoc]; exact htokens, ?_⟩
  simp only [Cursor.leaving, htokens, List.length_append]
  omega

theorem IsAt.tail (h : s.IsAt (t :: ts)) : (s.leaving ts).IsAt ts := h.leaving (List.suffix_cons t ts)

theorem IsAt.advance_eq (h : s.IsAt (t :: ts)) : s.advance = s.leaving ts := by
  have hlength := h.index_add
  have hmore : ¬ s.atEnd = true := by simp [h.atEnd_iff]
  rw [List.length_cons] at hlength
  have hindex : s.index + 1 = s.tokens.length - ts.length := by omega
  rw [advance, if_neg hmore, hindex, Cursor.leaving]

/-- A diagnostic points where the reading functions would have it point. -/
theorem IsAt.record_eq (h : s.IsAt ts) (fault : Fault) :
    s.record fault =
      { s with diagnostics := s.diagnostics ++ [⟨Parse.blamed s.start s.tokens ts, fault.message⟩] } := by
  rw [record, lastSeen?, h.current?_eq, Parse.blamed]

/-! ### Steps on the unread tokens -/

theorem IsAt.advanceOrFail (h : s.IsAt (t :: ts)) (hts : ts ≠ []) (fault : Fault) :
    (advanceOrFail fault).runFrom s = some (.ok (), s.leaving ts) := by
  have hmore : ¬ (s.leaving ts).atEnd = true := by
    rwa [(h.leaving (List.suffix_cons t ts)).atEnd_iff]
  rw [Cursor.advanceOrFail, runFrom_modify_bind, runFrom_get_bind, h.advance_eq, if_neg hmore]
  rfl

theorem IsAt.advanceOrFail_last (h : s.IsAt ts) (hts : ts.tail = []) (fault : Fault) :
    (Cursor.advanceOrFail fault).runFrom s = some (.error (), (s.leaving []).record fault) := by
  have hadvance : s.advance = s.leaving [] := by
    cases ts with
    | nil => rw [advance, if_pos (h.atEnd_iff.mpr rfl), h.leaving_eq]
    | cons t ts =>
      obtain rfl : ts = [] := hts
      exact h.advance_eq
  have hend : (s.leaving []).atEnd = true := (h.leaving List.nil_suffix).atEnd_iff.mpr rfl
  rw [Cursor.advanceOrFail, runFrom_modify_bind, runFrom_get_bind, hadvance, if_pos hend, runFrom_fail]

theorem IsAt.expect (h : s.IsAt (t :: ts)) {kind : Token.Kind} (ht : t.kind = kind) :
    (expect kind).runFrom s = some (.ok (), s) := by
  simp only [Cursor.expect, runFrom_get_bind, h.current?_eq, List.head?_cons, ht, if_true, runFrom_pure]

theorem IsAt.expect_mismatch (h : s.IsAt (t :: ts)) {kind : Token.Kind} (ht : t.kind ≠ kind) :
    (Cursor.expect kind).runFrom s = some (.error (), s.record (.mismatch kind t)) := by
  simp only [Cursor.expect, runFrom_get_bind, h.current?_eq, List.head?_cons, ht, if_false, runFrom_fail]

theorem IsAt.expect_nil (h : s.IsAt []) (kind : Token.Kind) :
    (Cursor.expect kind).runFrom s = some (.error (), s.record .endedEarly) := by
  simp only [Cursor.expect, runFrom_get_bind, h.current?_eq, List.head?_nil, runFrom_fail]

end Cursor

end FilterLang.Grammar
