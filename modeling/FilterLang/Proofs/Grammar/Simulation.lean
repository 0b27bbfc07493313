import FilterLang.Proofs.Grammar.Blame
import FilterLang.Proofs.Grammar.Cursor

/-!
# The cursor goes the way of a run

The machine of the cursor and the reading functions do the same. A run of the reading functions is also what the machine
does, rule by rule (`Run.settles`), and so the machine as a whole does what `parseTokens` does
(`Cursor.expression_ofTokens`).

A run says which tokens are unread when it ends. The cursor is then at the first of these, which says where it is without
counting the steps that have led there.
-/

namespace FilterLang.Grammar

namespace Cursor

variable {s s' : Cursor} {t z : Token} {ts k : List Token} {c : Connective} {e left : Expr} {es : List Expr}

/-- How an action ends that is entered with this cursor and has this verdict. -/
def settle (s : Cursor) : Verdict → Except Unit Expr × Cursor
  | .accepted e k => (.ok e, s.leaving k)
  | .rejected fault k => (.error (), (s.leaving k).record fault)

@[simp] theorem settle_leaving (s : Cursor) (k : List Token) (v : Verdict) : (s.leaving k).settle v = s.settle v := by
  cases v <;> rfl

/-- The machine does a task with this verdict. If the task is a loop, it may go round as often as `rounds` says. -/
def Settles (limit rounds : Nat) : Task → Cursor → Verdict → Prop
  | .read (.chain c), s, v => (chain (primary limit) limit c).runFrom s = some (s.settle v)
  | .read .comparison, s, v => (comparison (primary limit)).runFrom s = some (s.settle v)
  | .read .primary, s, v => (primary limit).runFrom s = some (s.settle v)
  | .read .elements, s, .accepted e k =>
    ∃ es, e = .list es ∧ (elements (chain (primary limit) limit .or) rounds).runFrom s = some (.ok es, s.leaving k)
  | .read .elements, s, .rejected fault k =>
    (elements (chain (primary limit) limit .or) rounds).runFrom s = some (.error (), (s.leaving k).record fault)
  | .further c left, s, v => (further c (operand (primary limit) limit c) rounds left).runFrom s = some (s.settle v)

theorem settles_operand_iff {limit rounds : Nat} {v : Verdict} :
    Settles limit rounds (.read (Grammar.operand c)) s v ↔
      (operand (primary limit) limit c).runFrom s = some (s.settle v) := by
  cases c <;> exact Iff.rfl

/-! ### What the token at hand decides -/

section

variable {action : Action Expr} {limit : Nat}

theorem further_join (hs : s.IsAt (t :: ts)) (ht : t.isOperator c.word) :
    (further c action (limit + 1) left).runFrom s = Action.runFrom (do
      advanceOrFail (.operandMissing c.word)
      let right ← action
      further c action limit (.binary c.family c.word left right)) s := by
  rw [further, runFrom_get_bind, hs.current?_eq, List.head?_cons, Option.any_some, if_pos ht]

theorem comparison_relate {family : Family} (hleft : action.runFrom s = some (.ok left, s'))
    (hs : s'.IsAt (t :: ts)) (ht : t.relation? = some family) :
    (comparison action).runFrom s = Action.runFrom (do
      advanceOrFail (.operandMissing t.value)
      let right ← action
      return .binary family t.value left right) s' := by
  rw [comparison, runFrom_bind_of_ok hleft, runFrom_get_bind, hs.current?_eq]
  simp only [List.head?_cons, ht]

theorem elements_cons (hs : s.IsAt (t :: ts)) (ht : t.kind ≠ .bracketClose) :
    (elements action (limit + 1)).runFrom s = Action.runFrom (do
      let e ← action
      if (← get).current?.any (·.kind = .bracketClose) then
        return [e]
      else
        expect .comma
        advanceOrFail (.operandMissing ",")
        let es ← elements action limit
        return e :: es) s := by
  have hopen : ¬ decide (t.kind = .bracketClose) = true := by simpa using ht
  rw [elements, runFrom_get_bind, hs.current?_eq, List.head?_cons, Option.all_some, if_neg hopen]

theorem elements_more (hs : s.IsAt (t :: ts)) (ht : t.kind ≠ .bracketClose) (he : action.runFrom s = some (.ok e, s'))
    (hs' : s'.IsAt k) (hk : ∀ z ∈ k.head?, z.kind ≠ .bracketClose) :
    (elements action (limit + 1)).runFrom s = Action.runFrom (do
      expect .comma
      advanceOrFail (.operandMissing ",")
      let es ← elements action limit
      return e :: es) s' := by
  have hopen : ¬ k.head?.any (·.kind = .bracketClose) = true := by
    rw [Option.any_eq_true]
    rintro ⟨z, hz, hclose⟩
    exact hk z hz (of_decide_eq_true hclose)
  rw [elements_cons hs ht, runFrom_bind_of_ok he, runFrom_get_bind, hs'.current?_eq, if_neg hopen]

theorem opened_paren (ht : t.kind = .parenOpen) :
    opened action limit t = do
      advanceOrFail (.operandMissing "(")
      let e ← action
      expect .parenClose
      return e := by
  rw [opened, leaf?_eq_none (.inl ht)]
  simp only [ht, reduceCtorEq, if_false, if_true]

theorem opened_paren_fails (ht : t.kind = .parenOpen) (hs : s.IsAt (t :: ts)) (hts : ts ≠ [])
    (h : action.runFrom (s.leaving ts) = some (.error (), s')) :
    (opened action limit t).runFrom s = some (.error (), s') := by
  rw [opened_paren ht, runFrom_bind_of_ok (hs.advanceOrFail hts _), runFrom_bind_of_error h]

theorem opened_paren_reads (limit : Nat) (ht : t.kind = .parenOpen) (hs : s.IsAt (t :: ts)) (hts : ts ≠ [])
    (h : action.runFrom (s.leaving ts) = some (.ok e, s')) :
    (opened action limit t).runFrom s = Action.runFrom (do
      expect .parenClose
      return e) s' := by
  rw [opened_paren ht, runFrom_bind_of_ok (hs.advanceOrFail hts _), runFrom_bind_of_ok h]

theorem opened_bracket (ht : t.kind = .bracketOpen) : opened action limit t = list action limit := by
  rw [opened, leaf?_eq_none (.inr ht)]
  simp only [ht, if_true]

/-- A primary that is read up to its last token is read with this token. -/
theorem primary_of_opened (hs : s.IsAt (t :: ts))
    (h : (opened (chain (primary limit) limit .or) limit t).runFrom s = some (.ok e, s')) (hs' : s'.IsAt (z :: k)) :
    (primary (limit + 1)).runFrom s = some (.ok e, s'.leaving k) := by
  rw [primary, runFrom_get_bind, hs.current?_eq, List.head?_cons, runFrom_bind_of_ok h, runFrom_modify_bind,
    hs'.advance_eq, runFrom_pure]

theorem primary_of_opened_error (hs : s.IsAt (t :: ts))
    (h : (opened (chain (primary limit) limit .or) limit t).runFrom s = some (.error (), s')) :
    (primary (limit + 1)).runFrom s = some (.error (), s') := by
  rw [primary, runFrom_get_bind, hs.current?_eq, List.head?_cons, runFrom_bind_of_error h]

/-! ### A list -/

theorem list_missing (hs : s.IsAt ts) (hts : ts.tail = []) :
    (list action limit).runFrom s = some (.error (), (s.leaving []).record (.operandMissing "[")) := by
  rw [list, runFrom_bind_of_error (hs.advanceOrFail_last hts _)]

theorem list_fails (hs : s.IsAt (t :: ts)) (hts : ts ≠ [])
    (h : (elements action limit).runFrom (s.leaving ts) = some (.error (), s')) :
    (list action limit).runFrom s = some (.error (), s') := by
  rw [list, runFrom_bind_of_ok (hs.advanceOrFail hts _), runFrom_bind_of_error h]

theorem list_reads (hs : s.IsAt (t :: ts)) (hts : ts ≠ [])
    (h : (elements action limit).runFrom (s.leaving ts) = some (.ok es, s')) (hs' : s'.IsAt (z :: k))
    (hz : z.kind = .bracketClose) : (list action limit).runFrom s = some (.ok (.list es), s') := by
  rw [list, runFrom_bind_of_ok (hs.advanceOrFail hts _), runFrom_bind_of_ok h, runFrom_bind_of_ok (hs'.expect hz),
    runFrom_pure]

end

end Cursor

theorem Run.isAt_rest {task : Task} {ts k : List Token} {e : Expr} (run : Run task ts (.accepted e k)) {s : Cursor}
    (hs : s.IsAt ts) : (s.leaving k).IsAt k :=
  hs.leaving run.suffix

/-- Behind a token one round less is needed. -/
theorem exists_succ_of_length_cons_le {t : Token} {ts : List Token} {n : Nat} (h : (t :: ts).length ≤ n) :
    ∃ m, n = m + 1 ∧ ts.length ≤ m := by
  cases n with
  | zero => cases h
  | succ m => exact ⟨m, rfl, Nat.le_of_succ_le_succ h⟩

open Cursor in
/-- The machine goes the way of a run, with as many rounds as there are tokens, and one more. -/
theorem Run.settles_succ {task : Task} {ts : List Token} {v : Verdict} (run : Run task ts v) {s : Cursor}
    (hs : s.IsAt ts) {limit rounds : Nat} (hlimit : ts.length ≤ limit) (hrounds : ts.length ≤ rounds) :
    Settles (limit + 1) (rounds + 1) task s v := by
  -- a loop that goes round again, and a primary in another one, are behind at least one more token
  induction run generalizing s limit rounds with
  | operandFails _ ih =>
    rw [Settles, chain, joining, runFrom_bind_of_error (settles_operand_iff.mp (ih hs hlimit hrounds))]
    rfl
  | operand run _ ih ih' =>
    have hrest := Nat.le_trans run.suffix.length_le hlimit
    rw [Settles, chain, joining, runFrom_bind_of_ok (settles_operand_iff.mp (ih hs hlimit hrounds)),
      ih' (run.isAt_rest hs) hrest hrest, settle_leaving]
  | exhausted =>
    rw [Settles, further, runFrom_get_bind, hs.current?_eq, settle, hs.leaving_eq]
    rfl
  | stop ht =>
    rw [Settles, further, runFrom_get_bind, hs.current?_eq, settle, hs.leaving_eq]
    exact congrArg (Action.runFrom · s) (if_neg ht)
  | joinMissing ht =>
    rw [Settles, further_join hs ht, runFrom_bind_of_error (hs.advanceOrFail_last rfl _)]
    rfl
  | joinFails ht run ih =>
    have hnext := Nat.le_of_succ_le hlimit
    rw [Settles, further_join hs ht, runFrom_bind_of_ok (hs.advanceOrFail (run.ne_nil rfl) _),
      runFrom_bind_of_error (settles_operand_iff.mp (ih hs.tail hnext hnext))]
    rfl
  | join ht run _ ih ih' =>
    obtain ⟨rounds, rfl, hround⟩ := exists_succ_of_length_cons_le hrounds
    have hnext := Nat.le_of_succ_le hlimit
    have hrest := run.suffix.length_le
    rw [Settles, further_join hs ht, runFrom_bind_of_ok (hs.advanceOrFail (run.ne_nil rfl) _),
      runFrom_bind_of_ok (settles_operand_iff.mp (ih hs.tail hnext hnext)),
      ih' (run.isAt_rest hs.tail) (Nat.le_trans hrest hnext) (Nat.le_trans hrest hround), settle_leaving, settle_leaving]
  | firstFails _ ih =>
    rw [Settles, comparison, runFrom_bind_of_error (ih hs hlimit hrounds)]
    rfl
  | only run ih =>
    rw [Settles, comparison, runFrom_bind_of_ok (ih hs hlimit hrounds), runFrom_get_bind,
      (run.isAt_rest hs).current?_eq]
    rfl
  | unrelated run ht ih =>
    rw [Settles, comparison, runFrom_bind_of_ok (ih hs hlimit hrounds), runFrom_get_bind,
      (run.isAt_rest hs).current?_eq]
    simp only [List.head?_cons, ht, runFrom_pure, settle]
  | relateMissing run ht ih =>
    have hrest := run.isAt_rest hs
    rw [Settles, comparison_relate (ih hs hlimit hrounds) hrest ht,
      runFrom_bind_of_error (hrest.advanceOrFail_last rfl _)]
    rfl
  | relateFails run ht run' ih ih' =>
    have hrest := run.isAt_rest hs
    have hnext := Nat.le_of_succ_le (Nat.le_trans run.suffix.length_le hlimit)
    rw [Settles, comparison_relate (ih hs hlimit hrounds) hrest ht,
      runFrom_bind_of_ok (hrest.advanceOrFail (run'.ne_nil rfl) _), runFrom_bind_of_error (ih' hrest.tail hnext hnext)]
    rfl
  | relate run ht run' ih ih' =>
    have hrest := run.isAt_rest hs
    have hnext := Nat.le_of_succ_le (Nat.le_trans run.suffix.length_le hlimit)
    rw [Settles, comparison_relate (ih hs hlimit hrounds) hrest ht,
      runFrom_bind_of_ok (hrest.advanceOrFail (run'.ne_nil rfl) _), runFrom_bind_of_ok (ih' hrest.tail hnext hnext)]
    rfl
  | @leaf t k e ht =>
    have hopened : (opened (chain (primary limit) limit .or) limit t).runFrom s = some (.ok e, s) := by
      rw [opened, ht, runFrom_pure]
    rw [Settles, primary_of_opened hs hopened hs]
    rfl
  | @unexpected t k ht hk hp =>
    have hopened : (opened (chain (primary limit) limit .or) limit t).runFrom s =
        some (.error (), s.record (.unexpected t)) := by
      rw [opened, ht]
      simp only [hk, hp, if_false, runFrom_fail]
    rw [Settles, primary_of_opened_error hs hopened, settle, hs.leaving_eq]
  | parensMissing ha =>
    rw [Settles, primary_of_opened_error hs
      (by rw [opened_paren ha, runFrom_bind_of_error (hs.advanceOrFail_last rfl _)])]
    rfl
  | parensFails ha run ih =>
    obtain ⟨limit, rfl, hnext⟩ := exists_succ_of_length_cons_le hlimit
    rw [Settles, primary_of_opened_error hs (opened_paren_fails ha hs (run.ne_nil rfl) (ih hs.tail hnext hnext))]
    rfl
  | parensEnds ha run ih =>
    obtain ⟨limit, rfl, hnext⟩ := exists_succ_of_length_cons_le hlimit
    have hopened := opened_paren_reads (limit + 1) ha hs (run.ne_nil rfl) (ih hs.tail hnext hnext)
    rw [runFrom_bind_of_error ((run.isAt_rest hs.tail).expect_nil _)] at hopened
    rw [Settles, primary_of_opened_error hs hopened]
    rfl
  | parensMismatch ha run hz ih =>
    obtain ⟨limit, rfl, hnext⟩ := exists_succ_of_length_cons_le hlimit
    have hopened := opened_paren_reads (limit + 1) ha hs (run.ne_nil rfl) (ih hs.tail hnext hnext)
    rw [runFrom_bind_of_error ((run.isAt_rest hs.tail).expect_mismatch hz)] at hopened
    rw [Settles, primary_of_opened_error hs hopened]
    rfl
  | parens ha run hz ih =>
    obtain ⟨limit, rfl, hnext⟩ := exists_succ_of_length_cons_le hlimit
    have hrest := run.isAt_rest hs.tail
    have hopened := opened_paren_reads (limit + 1) ha hs (run.ne_nil rfl) (ih hs.tail hnext hnext)
    rw [runFrom_bind_of_ok (hrest.expect hz), runFrom_pure] at hopened
    rw [Settles, primary_of_opened hs hopened hrest]
    rfl
  | listMissing ha =>
    rw [Settles, primary_of_opened_error hs (by rw [opened_bracket ha, list_missing hs rfl])]
    rfl
  | listFails ha run ih =>
    obtain ⟨limit, rfl, hnext⟩ := exists_succ_of_length_cons_le hlimit
    have hlist := list_fails hs (run.ne_nil rfl) (ih hs.tail hnext hnext)
    rw [← opened_bracket ha] at hlist
    rw [Settles, primary_of_opened_error hs hlist]
    rfl
  | list ha run hz ih =>
    obtain ⟨limit, rfl, hnext⟩ := exists_succ_of_length_cons_le hlimit
    have hrest := run.isAt_rest hs.tail
    obtain ⟨es, rfl, helements⟩ := ih hs.tail hnext hnext
    have hlist := list_reads hs (run.ne_nil rfl) helements hrest hz
    rw [← opened_bracket ha] at hlist
    rw [Settles, primary_of_opened hs hlist hrest]
    rfl
  -- the elements of a list come as a list of their own, and only `list` makes one expression of them
  | noElement hz =>
    refine ⟨[], rfl, ?_⟩
    rw [elements, runFrom_get_bind, hs.current?_eq, List.head?_cons, Option.all_some, if_pos (decide_eq_true hz),
      runFrom_pure, hs.leaving_eq]
  | elementFails ht _ ih =>
    rw [Settles, elements_cons hs ht, runFrom_bind_of_error (ih hs hlimit hrounds)]
  | elementEnds ht run ih =>
    have hrest := run.isAt_rest hs
    rw [Settles, elements_more hs ht (ih hs hlimit hrounds) hrest (by simp),
      runFrom_bind_of_error (hrest.expect_nil _)]
  | lastElement ht run hz ih =>
    refine ⟨_, rfl, ?_⟩
    rw [elements_cons hs ht, runFrom_bind_of_ok (ih hs hlimit hrounds), runFrom_get_bind,
      (run.isAt_rest hs).current?_eq, List.head?_cons, Option.any_some, if_pos (decide_eq_true hz), runFrom_pure]
  | elementMismatch ht run hz hcomma ih =>
    have hrest := run.isAt_rest hs
    rw [Settles, elements_more hs ht (ih hs hlimit hrounds) hrest (by simpa using hz),
      runFrom_bind_of_error (hrest.expect_mismatch hcomma)]
  | elementMissing ht run hcomma ih =>
    have hrest := run.isAt_rest hs
    rw [Settles, elements_more hs ht (ih hs hlimit hrounds) hrest (by simp [hcomma]),
      runFrom_bind_of_ok (hrest.expect hcomma), runFrom_bind_of_error (hrest.advanceOrFail_last rfl _)]
    rfl
  | moreFails ht run hcomma run' ih ih' =>
    have hrest := run.isAt_rest hs
    obtain ⟨rounds, rfl, hround⟩ := exists_succ_of_length_cons_le (Nat.le_trans run.suffix.length_le hrounds)
    have hnext := Nat.le_of_succ_le (Nat.le_trans run.suffix.length_le hlimit)
    rw [Settles, elements_more hs ht (ih hs hlimit hrounds) hrest (by simp [hcomma]),
      runFrom_bind_of_ok (hrest.expect hcomma), runFrom_bind_of_ok (hrest.advanceOrFail (run'.ne_nil rfl) _),
      runFrom_bind_of_error (ih' hrest.tail hnext hround)]
    rfl
  | moreElements ht run hcomma run' ih ih' =>
    have hrest := run.isAt_rest hs
    obtain ⟨rounds, rfl, hround⟩ := exists_succ_of_length_cons_le (Nat.le_trans run.suffix.length_le hrounds)
    have hnext := Nat.le_of_succ_le (Nat.le_trans run.suffix.length_le hlimit)
    obtain ⟨es, hes, helements⟩ := ih' hrest.tail hnext hround
    cases hes
    refine ⟨_, rfl, ?_⟩
    rw [elements_more hs ht (ih hs hlimit hrounds) hrest (by simp [hcomma]),
      runFrom_bind_of_ok (hrest.expect hcomma), runFrom_bind_of_ok (hrest.advanceOrFail (run'.ne_nil rfl) _),
      runFrom_bind_of_ok helements]
    rfl

open Cursor in
/-- **The machine goes the way of a run**: it ends with the same verdict, at the same tokens, and does not come to a
limit that is larger than the number of the tokens. -/
theorem Run.settles {task : Task} {ts : List Token} {v : Verdict} (run : Run task ts v) {s : Cursor} (hs : s.IsAt ts)
    {limit rounds : Nat} (hlimit : ts.length < limit) (hrounds : ts.length < rounds) :
    Settles limit rounds task s v := by
  obtain ⟨limit, rfl⟩ := Nat.exists_eq_succ_of_ne_zero (Nat.ne_zero_of_lt hlimit)
  obtain ⟨rounds, rfl⟩ := Nat.exists_eq_succ_of_ne_zero (Nat.ne_zero_of_lt hrounds)
  exact run.settles_succ hs (Nat.le_of_lt_succ hlimit) (Nat.le_of_lt_succ hrounds)

/-! ### The whole machine -/

namespace Cursor

/-- The machine reads an expression as `sentence` does. -/
theorem expression_settles {s : Cursor} {ts : List Token} (hs : s.IsAt ts) {limit : Nat} (hlimit : ts.length < limit) :
    (expression limit).runFrom s =
      match Parse.sentence ts with
      | .ok e => some (.ok e, s.leaving [])
      | .error (fault, k) => some (.error (), (s.leaving k).record fault) := by
  by_cases hts : ts = []
  · subst hts
    rw [expression, runFrom_get_bind, if_pos (hs.atEnd_iff.mpr rfl), runFrom_fail, Parse.sentence, if_pos rfl]
    simp only [hs.leaving_eq]
  · have run : Run (.read (.chain .or)) ts (.ofOutcome (Parse.chain .or ts)) := run_iff.mpr ⟨hts, rfl⟩
    rw [expression, runFrom_get_bind, if_neg (mt hs.atEnd_iff.mp hts), Parse.sentence, if_neg hts]
    cases h : Parse.chain .or ts with
    | rejected fault k =>
      rw [h] at run
      rw [runFrom_bind_of_error (run.settles hs hlimit hlimit)]
    | accepted e k shorter =>
      rw [h] at run
      have hrest := run.isAt_rest hs
      rw [runFrom_bind_of_ok (run.settles hs hlimit hlimit), runFrom_get_bind]
      cases k with
      | nil => rw [if_pos (hrest.atEnd_iff.mpr rfl), runFrom_pure]
      | cons t k => rw [if_neg (mt hrest.atEnd_iff.mp (List.cons_ne_nil t k)), runFrom_fail]

/-- The machine before it reads. -/
def ofTokens (start : Nat) (ts : List Token) : Cursor := ⟨start, ts, 0, []⟩

theorem isAt_ofTokens (start : Nat) (ts : List Token) : (ofTokens start ts).IsAt ts := ⟨[], rfl, rfl⟩

/-- **The machine does what `parseTokens` does**, and it stops at the token with which the reading fails. -/
theorem expression_ofTokens (start : Nat) (ts : List Token) {limit : Nat} (hlimit : ts.length < limit) :
    ∃ result s', (expression limit).runFrom (ofTokens start ts) = some (result, s') ∧
      match result with
      | .ok e => parseTokens start ts = .ok e ∧ s'.index = ts.length ∧ s'.diagnostics = []
      | .error () =>
        (∃ ds, parseTokens start ts = .error ds ∧ s'.diagnostics = ds.toList) ∧
          ∀ k, FailsAt ts k ↔ k < ts.length ∧ k = s'.index := by
  have hs := isAt_ofTokens start ts
  have hexpression := expression_settles hs hlimit
  cases h : Parse.sentence ts with
  | ok e =>
    rw [h] at hexpression
    exact ⟨_, _, hexpression, by rw [parseTokens, h], rfl, rfl⟩
  | error failed =>
    obtain ⟨fault, k⟩ := failed
    rw [h] at hexpression
    obtain ⟨front, hfront⟩ := exists_front_of_sentence h
    have hk : ((ofTokens start ts).leaving k).IsAt k := hs.leaving ⟨front, hfront.symm⟩
    refine ⟨_, _, hexpression, ⟨_, parseTokens_eq_error_iff.mpr ⟨fault, k, h, rfl⟩, ?_⟩, fun j => ?_⟩
    · rw [hk.record_eq]
      rfl
    · have hindex : ((ofTokens start ts).leaving k).index + k.length = ts.length := hk.index_add
      rw [failsAt_iff h, ← hindex, Nat.add_left_inj]
      rfl

end Cursor

end FilterLang.Grammar
