import FilterLang.Proofs.Grammar.Simulation

/-!
# Progress

Every rule comes to an end, whatever the cursor is with which it is entered (`Entry.progress`): it never comes to a limit
that is larger than the number of the unread tokens. If it accepts, it has read at least one token and has recorded
nothing. If it fails, it has recorded one diagnostic. It never goes past the tokens, and never back.

The reading functions do the same, and they are total. That an accepting rule has read a token is in the type of their
outcome. There is no run at the end of the tokens, so what the rules do there is told apart.
-/

namespace FilterLang.Grammar

/-! ### The end of the tokens -/

namespace Cursor

variable {s : Cursor}

theorem primary_atEnd (hs : s.IsAt []) (limit : Nat) :
    (primary (limit + 1)).runFrom s = some (.error (), s.record .endedEarly) := by
  rw [primary, runFrom_get_bind, hs.current?_eq, List.head?_nil, runFrom_fail]

theorem comparison_atEnd (hs : s.IsAt []) (limit : Nat) :
    (comparison (primary (limit + 1))).runFrom s = some (.error (), s.record .endedEarly) := by
  rw [comparison, runFrom_bind_of_error (primary_atEnd hs limit)]

theorem chain_atEnd (hs : s.IsAt []) (limit : Nat) (c : Connective) :
    (chain (primary (limit + 1)) (limit + 1) c).runFrom s = some (.error (), s.record .endedEarly) := by
  have hand : (chain (primary (limit + 1)) (limit + 1) .and).runFrom s = some (.error (), s.record .endedEarly) := by
    rw [chain, joining, operand, runFrom_bind_of_error (comparison_atEnd hs limit)]
  cases c with
  | and => exact hand
  | or => exact runFrom_bind_of_error hand

end Cursor

theorem comparison_nil : Parse.comparison [] = .rejected .endedEarly [] := by rw [Parse.comparison, Parse.primary]

theorem chain_nil (c : Connective) : Parse.chain c [] = .rejected .endedEarly [] := by
  have hand : Parse.chain .and [] = .rejected .endedEarly [] := by rw [Parse.chain, Parse.operand, comparison_nil]
  cases c with
  | and => exact hand
  | or => rw [Parse.chain, Parse.operand, hand]

/-! ### Rules that are entered -/

/-- The rules, as they can be entered with any cursor. -/
inductive Entry where
  /-- A disjunction or a conjunction. -/
  | chain (c : Connective)
  /-- A comparison. -/
  | comparison
  /-- A single token, a list, or an expression in parentheses. -/
  | primary
  /-- A list. The token at hand is its opening bracket. -/
  | list
  deriving DecidableEq, Repr

namespace Entry

/-- What the machine does. -/
def act (limit : Nat) : Entry → Action Expr
  | .chain c => Cursor.chain (Cursor.primary limit) limit c
  | .comparison => Cursor.comparison (Cursor.primary limit)
  | .primary => Cursor.primary limit
  | .list => Cursor.list (Cursor.chain (Cursor.primary limit) limit .or) limit

/-- What the reading function makes of these tokens. That of a list expects them without the opening bracket. -/
def verdict : Entry → List Token → Verdict
  | .chain c, ts => .ofOutcome (Parse.chain c ts)
  | .comparison, ts => .ofOutcome (Parse.comparison ts)
  | .primary, ts => .ofOutcome (Parse.primary ts)
  | .list, ts => .ofOutcome (Parse.list ts.tail)

/-- The tokens behind what was read, if these are unread. The machine leaves the closing bracket of a list unread. -/
def behind : Entry → List Token → List Token
  | .chain _, k => k
  | .comparison, k => k
  | .primary, k => k
  | .list, k => k.tail

/-- With these tokens at hand the machine comes to an end, and it ends as the reading function does. If it accepts, it
has read a token. -/
def Ends (entry : Entry) (s : Cursor) (ts : List Token) : Prop :=
  (∃ e k, (∀ limit, ts.length < limit → (entry.act limit).runFrom s = some (.ok e, s.leaving k)) ∧
    entry.verdict ts = .accepted e (entry.behind k) ∧ k <:+ ts ∧ k.length < ts.length) ∨
  ∃ fault k, (∀ limit, ts.length < limit →
      (entry.act limit).runFrom s = some (.error (), (s.leaving k).record fault)) ∧
    entry.verdict ts = .rejected fault k ∧ k <:+ ts

section

variable {entry : Entry} {s : Cursor} {ts : List Token}

/-- A rule ends that goes the way of a run. -/
theorem ends_of_settles {outcome : Parse.Outcome Expr ts.length}
    (h : ∀ limit, ts.length < limit → (entry.act limit).runFrom s = some (s.settle (.ofOutcome outcome)))
    (hverdict : entry.verdict ts = .ofOutcome outcome) (hbehind : ∀ k, entry.behind k = k)
    (hsuffix : (Verdict.ofOutcome outcome).unread <:+ ts) : entry.Ends s ts := by
  cases outcome with
  | accepted e k shorter => exact .inl ⟨e, k, h, by rw [hverdict, hbehind]; rfl, hsuffix, shorter⟩
  | rejected fault k => exact .inr ⟨fault, k, h, hverdict, hsuffix⟩

theorem ends_atEnd (hs : s.IsAt [])
    (h : ∀ limit, (entry.act (limit + 1)).runFrom s = some (.error (), s.record .endedEarly))
    (hverdict : entry.verdict [] = .rejected .endedEarly []) : entry.Ends s [] := by
  refine .inr ⟨.endedEarly, [], fun limit hlimit => ?_, hverdict, List.nil_suffix⟩
  obtain ⟨limit, rfl⟩ := Nat.exists_eq_succ_of_ne_zero (Nat.ne_zero_of_lt hlimit)
  rw [h, hs.leaving_eq]

theorem ends_primary (hs : s.IsAt ts) : primary.Ends s ts := by
  by_cases hts : ts = []
  · subst hts
    exact ends_atEnd hs (Cursor.primary_atEnd hs) (by rw [verdict, Parse.primary, Verdict.ofOutcome])
  · have run : Run (.read .primary) ts (.ofOutcome (Parse.primary ts)) := run_iff.mpr ⟨hts, rfl⟩
    exact ends_of_settles (fun _ hlimit => run.settles hs hlimit hlimit) rfl (fun _ => rfl) run.suffix

theorem ends_comparison (hs : s.IsAt ts) : comparison.Ends s ts := by
  by_cases hts : ts = []
  · subst hts
    exact ends_atEnd hs (Cursor.comparison_atEnd hs) (by rw [verdict, comparison_nil, Verdict.ofOutcome])
  · have run : Run (.read .comparison) ts (.ofOutcome (Parse.comparison ts)) := run_iff.mpr ⟨hts, rfl⟩
    exact ends_of_settles (fun _ hlimit => run.settles hs hlimit hlimit) rfl (fun _ => rfl) run.suffix

theorem ends_chain (hs : s.IsAt ts) (c : Connective) : (chain c).Ends s ts := by
  by_cases hts : ts = []
  · subst hts
    exact ends_atEnd hs (Cursor.chain_atEnd hs · c) (by rw [verdict, chain_nil, Verdict.ofOutcome])
  · have run : Run (.read (.chain c)) ts (.ofOutcome (Parse.chain c ts)) := run_iff.mpr ⟨hts, rfl⟩
    exact ends_of_settles (fun _ hlimit => run.settles hs hlimit hlimit) rfl (fun _ => rfl) run.suffix

theorem ends_list (hs : s.IsAt ts) : list.Ends s ts := by
  by_cases hts : ts.tail = []
  · refine .inr ⟨.operandMissing "[", [], fun _ _ => Cursor.list_missing hs hts, ?_, List.nil_suffix⟩
    rw [verdict, hts, Parse.list, if_pos rfl, Verdict.ofOutcome]
  · obtain ⟨t, ts, rfl⟩ := List.exists_cons_of_ne_nil (mt (congrArg List.tail) hts)
    rw [List.tail_cons] at hts
    have hsuffix : ts <:+ t :: ts := List.suffix_cons t ts
    have hlist := list_of_ne_nil hts
    have run : Run (.read .elements) ts (.ofOutcome ((Parse.elements ts).map .list)) := run_iff.mpr ⟨hts, rfl⟩
    cases h : Parse.elements ts with
    | rejected fault k =>
      rw [h] at run hlist
      refine .inr ⟨fault, k, fun limit hlimit => ?_, by rw [verdict, List.tail_cons, hlist]; rfl,
        run.suffix.trans hsuffix⟩
      have hnext := Nat.lt_of_succ_lt hlimit
      exact Cursor.list_fails hs hts (run.settles hs.tail hnext hnext)
    | accepted es k shorter =>
      rw [h] at run hlist
      -- the reading function takes the closing bracket too
      obtain ⟨z, k, rfl, hz⟩ := run.elements_rest
      rw [Parse.Outcome.closedBy, if_pos hz] at hlist
      refine .inl ⟨.list es, z :: k, fun limit hlimit => ?_, by rw [verdict, List.tail_cons, hlist]; rfl,
        run.suffix.trans hsuffix, shorter⟩
      have hnext := Nat.lt_of_succ_lt hlimit
      obtain ⟨_, ⟨⟩, helements⟩ := run.settles hs.tail hnext hnext
      have hrest := run.isAt_rest hs.tail
      exact Cursor.list_reads hs hts helements hrest hz

end

/-- A rule comes to an end, whatever tokens are at hand. -/
theorem ends (entry : Entry) {s : Cursor} {ts : List Token} (hs : s.IsAt ts) : entry.Ends s ts := by
  cases entry with
  | chain c => exact ends_chain hs c
  | comparison => exact ends_comparison hs
  | primary => exact ends_primary hs
  | list => exact ends_list hs

/-- **Every rule makes progress**: entered with any cursor that is not past the tokens, it comes to an end, before any
limit that is larger than the number of the unread tokens, and it ends as the reading function does. The tokens stay as
they are. If the rule accepts, it has moved the cursor on, and the diagnostics stay as they are too. If it fails, it has
not moved the cursor back, and there is one more diagnostic. -/
theorem progress (entry : Entry) (s : Cursor) (hs : s.index ≤ s.tokens.length) :
    ∃ result s', (∀ limit, s.unread.length < limit → (entry.act limit).runFrom s = some (result, s')) ∧
      s'.tokens = s.tokens ∧ s'.start = s.start ∧
      match result with
      | .ok e =>
        s.index < s'.index ∧ s'.index ≤ s.tokens.length ∧ s'.diagnostics = s.diagnostics ∧
          entry.verdict s.unread = .accepted e (entry.behind s'.unread)
      | .error () =>
        s.index ≤ s'.index ∧ s'.index ≤ s.tokens.length ∧
          ∃ fault : Fault,
            s'.diagnostics = s.diagnostics ++ [⟨Parse.blamed s.start s.tokens s'.unread, fault.message⟩] ∧
              entry.verdict s.unread = .rejected fault s'.unread := by
  have hat : s.IsAt s.unread := Cursor.isAt_unread hs
  have hindex := hat.index_add
  rcases entry.ends hat with ⟨e, k, hact, hverdict, hsuffix, hlength⟩ | ⟨fault, k, hact, hverdict, hsuffix⟩
  · have hk : (s.leaving k).IsAt k := hat.leaving hsuffix
    have hindex' : (s.leaving k).index + k.length = s.tokens.length := hk.index_add
    refine ⟨.ok e, s.leaving k, hact, rfl, rfl, by omega, by omega, rfl, ?_⟩
    rw [hk.unread_eq, hverdict]
  · have hk : ((s.leaving k).record fault).IsAt k := hat.leaving hsuffix
    have hindex' : ((s.leaving k).record fault).index + k.length = s.tokens.length := hk.index_add
    have hlength := hsuffix.length_le
    refine ⟨.error (), _, hact, rfl, rfl, by omega, by omega, fault, ?_, by rw [hk.unread_eq, hverdict]⟩
    rw [hk.unread_eq, (hat.leaving hsuffix).record_eq]
    rfl

/-- In `[null] or [2` the second list is never closed. The diagnostic goes behind the one that is there. -/
theorem progress_unclosed :
    let t : Token := ⟨.integer, 11, "2"⟩
    let d : Diagnostic := ⟨t, "Expected end of expression"⟩
    let s : Cursor := ⟨0, [⟨.bracketOpen, 0, "["⟩, ⟨.null, 1, "null"⟩, ⟨.bracketClose, 5, "]"⟩, ⟨.operator, 7, "or"⟩,
      ⟨.bracketOpen, 10, "["⟩, t], 4, [d]⟩
    s.index ≤ s.tokens.length ∧
      ∃ s', (list.act 3).runFrom s = some (.error (), s') ∧ s'.tokens = s.tokens ∧ 4 ≤ s'.index ∧ s'.index ≤ 6 ∧
        s'.diagnostics = [d, ⟨t, "Unexpected end of expression"⟩] := by
  intro t d s
  have hs : s.index ≤ s.tokens.length := by decide
  have hverdict : list.verdict s.unread = .rejected .endedEarly [] := by
    show Verdict.ofOutcome (Parse.list [t]) = .rejected .endedEarly []
    cbv
  obtain ⟨result, s', hact, htokens, -, hresult⟩ := progress .list s hs
  have hlist := hact 3 (by decide)
  cases result with
  | ok e =>
    obtain ⟨-, -, -, haccepted⟩ := hresult
    rw [hverdict] at haccepted
    cases haccepted
  | error _ =>
    obtain ⟨hmoved, hinside, fault, hdiagnostics, hrejected⟩ := hresult
    rw [hverdict] at hrejected
    obtain ⟨rfl, hunread⟩ := Verdict.rejected.inj hrejected
    refine ⟨hs, s', hlist, htokens, hmoved, hinside, ?_⟩
    rw [hdiagnostics, ← hunread]
    rfl

end Entry

end FilterLang.Grammar
