import FilterLang.Proofs.Grammar.Simulation
import FilterLang.Proofs.Grammar.Unclosed

/-!
# Where a token is always at hand

The machine of the cursor has branches for the end of the tokens that it never takes (`checkpoints_clear`). When a primary
is entered, and when it is looked whether the elements of a list go on, a token is at hand. When the closing bracket of a
list is required, it is at hand.

To say so the machine is watched. At each of these checkpoints it is given something to do, which may be nothing. It may
also be to stop with no result, if the machine comes to this checkpoint with a certain cursor. So a reading passes a
checkpoint with a cursor if it comes to no result when it is stopped there (`Passes`).

The proof follows the machine from the inside to the outside. Where a rule enters another, either nothing has been read
since it was entered itself, or it has just gone on to a token that had to be there. So two actions may stand for each
other in a rule if they do the same with a token at hand (`Agree`).
-/

namespace FilterLang.Grammar.Cursor

/-! ### The watched machine -/

/-- The places at which the machine is watched. -/
inductive Checkpoint where
  /-- A primary is entered. -/
  | primary
  /-- It is looked whether the elements of a list go on. -/
  | elements
  /-- The closing bracket of a list is required. -/
  | closing
  deriving DecidableEq, Repr

/-- What is done at each checkpoint. -/
abbrev Watch := Checkpoint → Action Unit

section

variable (watch : Watch)

/-- The elements of a list. Each round of the loop has a checkpoint. -/
def watchedElements (element : Action Expr) : Nat → Action (List Expr)
  | 0 => beyond
  | limit + 1 => do
    watch .elements
    if (← get).current?.all (·.kind = .bracketClose) then
      return []
    else
      let e ← element
      if (← get).current?.any (·.kind = .bracketClose) then
        return [e]
      else
        expect .comma
        advanceOrFail (.operandMissing ",")
        let es ← watchedElements element limit
        return e :: es

/-- A list from its opening bracket on. There is a checkpoint before the closing bracket. -/
def watchedList (element : Action Expr) (limit : Nat) : Action Expr := do
  advanceOrFail (.operandMissing "[")
  let es ← watchedElements watch element limit
  watch .closing
  expect .bracketClose
  return .list es

/-- What begins with the token at hand. Of this only a list has checkpoints. -/
def watchedOpened (expression : Action Expr) (limit : Nat) (t : Token) : Action Expr :=
  if t.kind = .bracketOpen then watchedList watch expression limit else opened expression limit t

/-- A primary. It begins with a checkpoint. -/
def watchedPrimary : Nat → Action Expr
  | 0 => beyond
  | limit + 1 => do
    watch .primary
    match (← get).current? with
    | none => fail .endedEarly
    | some t =>
      let e ← watchedOpened watch (chain (watchedPrimary limit) limit .or) limit t
      modify advance
      return e

/-- All tokens as one expression. -/
def watchedExpression (limit : Nat) : Action Expr := do
  if (← get).atEnd then
    fail .empty
  else
    let e ← chain (watchedPrimary watch limit) limit .or
    if (← get).atEnd then return e else fail .leftover

end

/-- Stops the machine if it comes to this checkpoint with this cursor. -/
def stopAt (point : Checkpoint) (s : Cursor) : Watch := fun point' => do
  if point' = point ∧ (← get) = s then beyond

/-- The reading of these tokens comes to the checkpoint with this cursor: if it is stopped there, it has no result, while
it has one if nothing is done at the checkpoints (`watchedExpression_ofTokens`). -/
def Passes (start : Nat) (ts : List Token) (point : Checkpoint) (s : Cursor) : Prop :=
  (watchedExpression (stopAt point s) (ts.length + 1)).runFrom (ofTokens start ts) = none

/-- The cursor is as it should be at the checkpoint. -/
def Checkpoint.Clear (s : Cursor) : Checkpoint → Prop
  | .primary => s.atEnd = false
  | .elements => s.atEnd = false
  | .closing => (expect .bracketClose).runFrom s = some (.ok (), s)

/-- Nothing is done at a checkpoint if the cursor is as it should be. -/
def Watch.Idle (watch : Watch) : Prop :=
  ∀ (point : Checkpoint) (s : Cursor), point.Clear s → (watch point).runFrom s = some (.ok (), s)

theorem idle_return : Watch.Idle fun _ => return () := fun _ _ _ => rfl

theorem idle_stopAt {point : Checkpoint} {s : Cursor} (h : ¬ point.Clear s) : (stopAt point s).Idle := by
  intro point' s' hclear
  have helsewhere : ¬ (point' = point ∧ s' = s) := by
    rintro ⟨rfl, rfl⟩
    exact h hclear
  rw [stopAt, runFrom_get_bind, if_neg helsewhere, runFrom_pure]

/-! ### Actions that agree -/

section

variable {α β : Type} {s s' : Cursor} {act act' : Action α} {f f' : α → Action β}

/-- Two actions do the same if a token is at hand. -/
def Agree (act act' : Action α) : Prop := ∀ s : Cursor, s.atEnd = false → act.runFrom s = act'.runFrom s

theorem Agree.bind (h : Agree act act') (hf : ∀ a s, (f a).runFrom s = (f' a).runFrom s) :
    Agree (act >>= f) (act' >>= f') :=
  fun s hs => runFrom_bind_congr (h s hs) fun a s' _ => hf a s'

/-- A step to the next token that succeeds comes to a token. -/
theorem atEnd_of_advanceOrFail {fault : Fault} (h : (advanceOrFail fault).runFrom s = some (.ok (), s')) :
    s'.atEnd = false := by
  rw [advanceOrFail, runFrom_modify_bind, runFrom_get_bind] at h
  split at h
  · rw [runFrom_fail] at h
    cases h
  · next hmore =>
    rw [runFrom_pure] at h
    cases h
    simpa using hmore

theorem Agree.advance {f f' : Unit → Action β} (h : Agree (f ()) (f' ())) (fault : Fault) (s : Cursor) :
    Action.runFrom (advanceOrFail fault >>= f) s = Action.runFrom (advanceOrFail fault >>= f') s :=
  runFrom_bind_congr rfl fun _ s' hs' => h s' (atEnd_of_advanceOrFail hs')

end

/-! ### Rules whose operands agree -/

section

variable {act act' : Action Expr}

theorem Agree.further (h : Agree act act') (c : Connective) (limit : Nat) (left : Expr) (s : Cursor) :
    (further c act limit left).runFrom s = (further c act' limit left).runFrom s := by
  induction limit generalizing left s with
  | zero => rfl
  | succ limit ih =>
    rw [Cursor.further, Cursor.further, runFrom_get_bind, runFrom_get_bind]
    split
    -- the operand comes behind the step to a token, but what comes behind the operand may be at the end
    · exact Agree.advance (h.bind fun right s' => ih _ s') _ s
    · rfl

theorem Agree.joining (h : Agree act act') (c : Connective) (limit : Nat) :
    Agree (joining c act limit) (joining c act' limit) :=
  h.bind fun left s => h.further c limit left s

theorem Agree.comparison (h : Agree act act') : Agree (comparison act) (comparison act') := by
  refine h.bind fun left s => ?_
  rw [runFrom_get_bind, runFrom_get_bind]
  split
  · rfl
  · split
    · rfl
    · exact Agree.advance (h.bind fun _ _ => rfl) _ s

theorem Agree.chain (h : Agree act act') (limit : Nat) (c : Connective) :
    Agree (chain act limit c) (chain act' limit c) := by
  have hand : Agree (Cursor.chain act limit .and) (Cursor.chain act' limit .and) := h.comparison.joining .and limit
  cases c with
  | and => exact hand
  | or => exact hand.joining .or limit

end

/-! ### Watching makes no difference -/

section

variable {act act' : Action Expr} {s s' : Cursor} {watch : Watch}

/-- An idle watch lets pass. -/
theorem Watch.Idle.runFrom_bind {β : Type} {point : Checkpoint} (hwatch : watch.Idle) (h : point.Clear s)
    (f : Unit → Action β) : Action.runFrom (watch point >>= f) s = (f ()).runFrom s :=
  runFrom_bind_of_ok (hwatch point s h)

theorem exists_current?_eq (hs : s.atEnd = false) : ∃ t, s.current? = some t := by
  rw [atEnd, decide_eq_false_iff_not, Nat.not_le] at hs
  exact ⟨_, List.getElem?_eq_getElem hs⟩

theorem clear_closing (h : s.current?.any (·.kind = .bracketClose) = true) : Checkpoint.closing.Clear s := by
  obtain ⟨t, ht, hclose⟩ := (Option.any_eq_true ..).mp h
  simp only [Checkpoint.Clear, expect, runFrom_get_bind, ht, of_decide_eq_true hclose, if_true, runFrom_pure]

/-- The loop over elements ends at a closing bracket. -/
theorem elements_clear {limit : Nat} {es : List Expr} (hs : s.atEnd = false)
    (h : (elements act limit).runFrom s = some (.ok es, s')) : Checkpoint.closing.Clear s' := by
  induction limit generalizing s es with
  | zero => cases h
  | succ limit ih =>
    rw [elements, runFrom_get_bind] at h
    split at h
    · next hclose =>
      obtain ⟨t, ht⟩ := exists_current?_eq hs
      rw [runFrom_pure] at h
      cases h
      rw [ht, Option.all_some] at hclose
      exact clear_closing (by rw [ht, Option.any_some, hclose])
    · obtain ⟨e, s₁, -, h⟩ := exists_of_runFrom_bind h
      rw [runFrom_get_bind] at h
      split at h
      · next hclose =>
        rw [runFrom_pure] at h
        cases h
        exact clear_closing hclose
      · obtain ⟨_, s₂, -, h⟩ := exists_of_runFrom_bind h
        obtain ⟨_, s₃, hadvance, h⟩ := exists_of_runFrom_bind h
        obtain ⟨es, s₄, hes, h⟩ := exists_of_runFrom_bind h
        rw [runFrom_pure] at h
        cases h
        exact ih (atEnd_of_advanceOrFail hadvance) hes

theorem Agree.elements (h : Agree act act') (hwatch : watch.Idle) (limit : Nat) :
    Agree (watchedElements watch act limit) (elements act' limit) := by
  induction limit with
  | zero => exact fun s _ => rfl
  | succ limit ih =>
    intro s hs
    have hclear : Checkpoint.elements.Clear s := hs
    rw [watchedElements, hwatch.runFrom_bind hclear, Cursor.elements, runFrom_get_bind, runFrom_get_bind]
    split
    · rfl
    · refine runFrom_bind_congr (h s hs) fun e s' _ => ?_
      rw [runFrom_get_bind, runFrom_get_bind]
      split
      · rfl
      · refine runFrom_bind_congr rfl fun _ s₁ _ => ?_
        exact Agree.advance (ih.bind fun _ _ => rfl) _ s₁

theorem Agree.list (h : Agree act act') (hwatch : watch.Idle) (limit : Nat) (s : Cursor) :
    (watchedList watch act limit).runFrom s = (list act' limit).runFrom s := by
  refine Agree.advance (fun s' hs' => ?_) _ s
  refine runFrom_bind_congr (h.elements hwatch limit s' hs') fun es s₁ hes => ?_
  exact hwatch.runFrom_bind (elements_clear hs' hes) _

theorem Agree.opened (h : Agree act act') (hwatch : watch.Idle) (limit : Nat) (t : Token) (s : Cursor) :
    (watchedOpened watch act limit t).runFrom s = (opened act' limit t).runFrom s := by
  by_cases hb : t.kind = .bracketOpen
  · rw [watchedOpened, if_pos hb, opened_bracket hb]
    exact h.list hwatch limit s
  · rw [watchedOpened, if_neg hb, Cursor.opened, Cursor.opened]
    split
    · rfl
    · rw [if_neg hb, if_neg hb]
      split
      · exact Agree.advance (h.bind fun _ _ => rfl) _ s
      · rfl

theorem agree_primary (hwatch : watch.Idle) (limit : Nat) : Agree (watchedPrimary watch limit) (primary limit) := by
  induction limit with
  | zero => exact fun s _ => rfl
  | succ limit ih =>
    intro s hs
    have hclear : Checkpoint.primary.Clear s := hs
    obtain ⟨t, ht⟩ := exists_current?_eq hs
    rw [watchedPrimary, hwatch.runFrom_bind hclear, primary, runFrom_get_bind, runFrom_get_bind, ht]
    exact runFrom_bind_congr ((ih.chain limit .or).opened hwatch limit t s) fun _ _ _ => rfl

/-- **An idle watch makes no difference**, whatever it does where the cursor is not as it should be. -/
theorem runFrom_watchedExpression (hwatch : watch.Idle) (limit : Nat) (s : Cursor) :
    (watchedExpression watch limit).runFrom s = (expression limit).runFrom s := by
  rw [watchedExpression, expression, runFrom_get_bind, runFrom_get_bind]
  split
  · rfl
  · next hmore =>
    have hs : s.atEnd = false := by simpa using hmore
    exact runFrom_bind_congr ((agree_primary hwatch limit).chain limit .or s hs) fun _ _ _ => rfl

end

/-! ### Readings -/

section

variable {start : Nat} {ts : List Token}

/-- A watched reading that is not stopped does what `parseTokens` does. -/
theorem watchedExpression_ofTokens {watch : Watch} (hwatch : watch.Idle) (start : Nat) (ts : List Token) :
    ∃ result s', (watchedExpression watch (ts.length + 1)).runFrom (ofTokens start ts) = some (result, s') ∧
      match result with
      | .ok e => parseTokens start ts = .ok e
      | .error () => ∃ ds, parseTokens start ts = .error ds ∧ s'.diagnostics = ds.toList := by
  obtain ⟨result, s', hrun, hresult⟩ := expression_ofTokens start ts (Nat.lt_succ_self ts.length)
  refine ⟨result, s', by rw [runFrom_watchedExpression hwatch, hrun], ?_⟩
  cases result with
  | ok e => exact hresult.1
  | error => exact hresult.1

/-- A reading passes a checkpoint only if the cursor is as it should be. -/
theorem Passes.clear {point : Checkpoint} {s : Cursor} (h : Passes start ts point s) : point.Clear s := by
  refine Classical.byContradiction fun hclear => ?_
  obtain ⟨result, s', hrun, -⟩ := watchedExpression_ofTokens (idle_stopAt hclear) start ts
  rw [Passes, hrun] at h
  cases h

end

/-- **The branches for a missing token are never taken.** A reading goes as `parseTokens` does. Whenever it enters a
primary, and whenever it looks whether the elements of a list go on, a token is at hand. Whenever it requires the closing
bracket of a list, it finds it. So no message asks for a closing bracket, and the message of an early end is given just if
the tokens could go on, and parentheses or a list are left open behind a whole expression. -/
theorem checkpoints_clear (start : Nat) (ts : List Token) :
    (∃ result s',
      (watchedExpression (fun _ => return ()) (ts.length + 1)).runFrom (ofTokens start ts) = some (result, s') ∧
        match result with
        | .ok e => parseTokens start ts = .ok e
        | .error () => ∃ ds, parseTokens start ts = .error ds ∧ s'.diagnostics = ds.toList) ∧
      (∀ s, Passes start ts .primary s → s.atEnd = false) ∧
      (∀ s, Passes start ts .elements s → s.atEnd = false) ∧
      (∀ s, Passes start ts .closing s → (expect .bracketClose).runFrom s = some (.ok (), s)) ∧
      ∀ ds, parseTokens start ts = .error ds →
        ∃ d, ds = .singleton d ∧ (∀ found, d.message ≠ "Expected ] but found " ++ found) ∧
          (d.message = "Unexpected end of expression" ↔ Viable ts ∧ ∃ us, us <:+ ts ∧ Unclosed us) := by
  refine ⟨watchedExpression_ofTokens idle_return start ts, ?_, ?_, ?_, ?_⟩
  · exact fun s hpasses => hpasses.clear
  · exact fun s hpasses => hpasses.clear
  · exact fun s hpasses => hpasses.clear
  · exact fun ds hds => exists_message_of_parseTokens hds

/-- In `[[], (2` the inner list is closed and the parentheses are not. -/
theorem checkpoints_clear_unclosed :
    let t : Token := ⟨.integer, 6, "2"⟩
    let ts : List Token := [⟨.bracketOpen, 0, "["⟩, ⟨.bracketOpen, 1, "["⟩, ⟨.bracketClose, 2, "]"⟩, ⟨.comma, 3, ","⟩,
      ⟨.parenOpen, 5, "("⟩, t]
    let s : Cursor := ⟨0, ts, 2, []⟩
    Passes 0 ts .closing s ∧ (expect .bracketClose).runFrom s = some (.ok (), s) ∧
      parseTokens 0 ts = .error (.singleton ⟨t, "Unexpected end of expression"⟩) ∧
        Viable ts ∧ ∃ us, us <:+ ts ∧ Unclosed us := by
  intro t ts s
  have hpasses : Passes 0 ts .closing s := rfl
  have hsentence : Parse.sentence ts = .error (.endedEarly, []) := by cbv
  have hparse : parseTokens 0 ts = .error (.singleton ⟨t, "Unexpected end of expression"⟩) :=
    parseTokens_eq_error_iff.mpr ⟨_, _, hsentence, rfl⟩
  obtain ⟨-, -, -, hclosing, hmessage⟩ := checkpoints_clear 0 ts
  obtain ⟨d, hd, -, hearly⟩ := hmessage _ hparse
  obtain rfl := congrArg Diagnostics.first hd
  exact ⟨hpasses, hclosing s hpasses, hparse, hearly.mp rfl⟩

end FilterLang.Grammar.Cursor
