import FilterLang.Proofs.Grammar.Exact

/-!
# One token of lookahead

A rule decides by the token at hand alone. So a run goes the same way whatever stands behind the first of the tokens
that it leaves unread (`Run.lookahead`). There are nine ways in which a fault is found (`Run.arises`). It is found at the
end of the tokens, or it is about the first of the unread tokens (`fault_cases_of_sentence`).
-/

namespace FilterLang.Grammar

open Parse

/-- The tokens that a verdict leaves unread. -/
def Verdict.unread : Verdict → List Token
  | .accepted _ k => k
  | .rejected _ k => k

/-- The same verdict, with these tokens unread. -/
def Verdict.onto (k : List Token) : Verdict → Verdict
  | .accepted e _ => .accepted e k
  | .rejected fault _ => .rejected fault k

/-- The run takes its tokens from the front, and it goes the same way in front of all tokens that begin as the unread
ones do. -/
def LooksAhead (task : Task) (ts : List Token) (v : Verdict) : Prop :=
  ∃ front, ts = front ++ v.unread ∧ ∀ k, k.head? = v.unread.head? → Run task (front ++ k) (v.onto k)

/-- Where no token is unread, there is nothing to change. -/
theorem looksAhead_of_unread_eq_nil {task : Task} {ts : List Token} {v : Verdict} (h : Run task ts v)
    (hv : v.unread = []) (honto : v.onto [] = v) : LooksAhead task ts v := by
  refine ⟨ts, by rw [hv, List.append_nil], fun k hk => ?_⟩
  rw [hv, List.head?_nil, List.head?_eq_none_iff] at hk
  rwa [hk, List.append_nil, honto]

theorem head?_append_congr {k k' : List Token} (h : k.head? = k'.head?) (front : List Token) :
    (front ++ k).head? = (front ++ k').head? := by
  rw [List.head?_append, List.head?_append, h]

/-- Tokens that begin as others do, and the first of those is known. -/
theorem exists_cons_of_append {t : Token} {ts front k k' : List Token} (hts : t :: ts = front ++ k')
    (h : k.head? = k'.head?) : ∃ us, front ++ k = t :: us := by
  rw [← List.head?_eq_some_iff, head?_append_congr h, ← hts, List.head?_cons]

/-- **A run looks one token ahead**: whatever stands behind the first unread token, it goes the same way. -/
theorem Run.lookahead {task : Task} {ts : List Token} {v : Verdict} (h : Run task ts v) : LooksAhead task ts v := by
  induction h with
  | operandFails _ ih =>
    obtain ⟨front, rfl, run⟩ := ih
    exact ⟨front, rfl, fun k hk => .operandFails (run k hk)⟩
  | operand _ _ ih ih' =>
    obtain ⟨front, rfl, run⟩ := ih
    obtain ⟨front', rfl, run'⟩ := ih'
    refine ⟨front ++ front', (List.append_assoc ..).symm, fun k hk => ?_⟩
    rw [List.append_assoc]
    exact .operand (run _ (head?_append_congr hk front')) (run' k hk)
  | exhausted => exact looksAhead_of_unread_eq_nil .exhausted rfl rfl
  | stop ht =>
    refine ⟨[], rfl, fun k hk => ?_⟩
    obtain ⟨k, rfl⟩ := List.head?_eq_some_iff.mp hk
    exact .stop ht
  | joinMissing ht => exact looksAhead_of_unread_eq_nil (.joinMissing ht) rfl rfl
  | joinFails ht _ ih =>
    obtain ⟨front, rfl, run⟩ := ih
    exact ⟨_ :: front, rfl, fun k hk => .joinFails ht (run k hk)⟩
  | @join c left right t ts k v ht _ _ ih ih' =>
    obtain ⟨front, rfl, run⟩ := ih
    obtain ⟨front', rfl, run'⟩ := ih'
    refine ⟨t :: (front ++ front'), by simp [Verdict.unread], fun k hk => ?_⟩
    rw [List.cons_append, List.append_assoc]
    exact .join ht (run _ (head?_append_congr hk front')) (run' k hk)
  | firstFails _ ih =>
    obtain ⟨front, rfl, run⟩ := ih
    exact ⟨front, rfl, fun k hk => .firstFails (run k hk)⟩
  | only run => exact looksAhead_of_unread_eq_nil (.only run) rfl rfl
  | unrelated _ ht ih =>
    obtain ⟨front, rfl, run⟩ := ih
    refine ⟨front, rfl, fun k hk => ?_⟩
    obtain ⟨k, rfl⟩ := List.head?_eq_some_iff.mp hk
    exact .unrelated (run _ hk) ht
  | relateMissing run ht => exact looksAhead_of_unread_eq_nil (.relateMissing run ht) rfl rfl
  | @relateFails ts us k t family left fault _ ht _ ih ih' =>
    obtain ⟨front, rfl, run⟩ := ih
    obtain ⟨front', rfl, run'⟩ := ih'
    refine ⟨front ++ t :: front', by simp [Verdict.unread], fun k hk => ?_⟩
    rw [List.append_assoc, List.cons_append]
    exact .relateFails (run _ rfl) ht (run' k hk)
  | @relate ts us k t family left right _ ht _ ih ih' =>
    obtain ⟨front, rfl, run⟩ := ih
    obtain ⟨front', rfl, run'⟩ := ih'
    refine ⟨front ++ t :: front', by simp [Verdict.unread], fun k hk => ?_⟩
    rw [List.append_assoc, List.cons_append]
    exact .relate (run _ rfl) ht (run' k hk)
  | @leaf t k e ht => exact ⟨[t], rfl, fun k _ => .leaf ht⟩
  | unexpected ht hb hp =>
    refine ⟨[], rfl, fun k hk => ?_⟩
    obtain ⟨k, rfl⟩ := List.head?_eq_some_iff.mp hk
    exact .unexpected ht hb hp
  | parensMissing ha => exact looksAhead_of_unread_eq_nil (.parensMissing ha) rfl rfl
  | parensFails ha _ ih =>
    obtain ⟨front, rfl, run⟩ := ih
    exact ⟨_ :: front, rfl, fun k hk => .parensFails ha (run k hk)⟩
  | parensEnds ha run => exact looksAhead_of_unread_eq_nil (.parensEnds ha run) rfl rfl
  | parensMismatch ha _ hz ih =>
    obtain ⟨front, rfl, run⟩ := ih
    refine ⟨_ :: front, rfl, fun k hk => ?_⟩
    obtain ⟨k, rfl⟩ := List.head?_eq_some_iff.mp hk
    exact .parensMismatch ha (run _ hk) hz
  | @parens a z ts k e ha _ hz ih =>
    obtain ⟨front, rfl, run⟩ := ih
    refine ⟨a :: (front ++ [z]), by simp [Verdict.unread], fun k _ => ?_⟩
    rw [List.cons_append, List.append_assoc]
    exact .parens ha (run (z :: k) rfl) hz
  | listMissing ha => exact looksAhead_of_unread_eq_nil (.listMissing ha) rfl rfl
  | listFails ha _ ih =>
    obtain ⟨front, rfl, run⟩ := ih
    exact ⟨_ :: front, rfl, fun k hk => .listFails ha (run k hk)⟩
  | @list a z ts k e ha _ hz ih =>
    obtain ⟨front, rfl, run⟩ := ih
    refine ⟨a :: (front ++ [z]), by simp [Verdict.unread], fun k _ => ?_⟩
    rw [List.cons_append, List.append_assoc]
    exact .list ha (run (z :: k) rfl) hz
  | noElement hz =>
    refine ⟨[], rfl, fun k hk => ?_⟩
    obtain ⟨k, rfl⟩ := List.head?_eq_some_iff.mp hk
    exact .noElement hz
  -- the elements of a list look at the first of their tokens before they read it, so it is named again in each case
  | elementFails ht _ ih =>
    obtain ⟨front, hts, run⟩ := ih
    refine ⟨front, hts, fun k hk => ?_⟩
    have hrun := run k hk
    obtain ⟨us, hus⟩ := exists_cons_of_append hts hk
    rw [hus] at hrun ⊢
    exact .elementFails ht hrun
  | elementEnds ht run => exact looksAhead_of_unread_eq_nil (.elementEnds ht run) rfl rfl
  | lastElement ht _ hz ih =>
    obtain ⟨front, hts, run⟩ := ih
    refine ⟨front, hts, fun k hk => ?_⟩
    have hrun := run k hk
    obtain ⟨us, hus⟩ := exists_cons_of_append hts hk
    obtain ⟨k, rfl⟩ := List.head?_eq_some_iff.mp hk
    rw [hus] at hrun ⊢
    exact .lastElement ht hrun hz
  | elementMismatch ht _ hz hs ih =>
    obtain ⟨front, hts, run⟩ := ih
    refine ⟨front, hts, fun k hk => ?_⟩
    have hrun := run k hk
    obtain ⟨us, hus⟩ := exists_cons_of_append hts hk
    obtain ⟨k, rfl⟩ := List.head?_eq_some_iff.mp hk
    rw [hus] at hrun ⊢
    exact .elementMismatch ht hrun hz hs
  | elementMissing ht run hs => exact looksAhead_of_unread_eq_nil (.elementMissing ht run hs) rfl rfl
  | @moreFails t s ts us k e fault ht _ hs _ ih ih' =>
    obtain ⟨front, hts, run⟩ := ih
    obtain ⟨front', rfl, run'⟩ := ih'
    refine ⟨front ++ s :: front', by simpa [Verdict.unread] using hts, fun k hk => ?_⟩
    rw [List.append_assoc, List.cons_append]
    have hrun := run (s :: (front' ++ k)) rfl
    obtain ⟨us, hus⟩ := exists_cons_of_append (k := s :: (front' ++ k)) hts rfl
    rw [hus] at hrun ⊢
    exact .moreFails ht hrun hs (run' k hk)
  | @moreElements t s ts us k e es ht _ hs _ ih ih' =>
    obtain ⟨front, hts, run⟩ := ih
    obtain ⟨front', rfl, run'⟩ := ih'
    refine ⟨front ++ s :: front', by simpa [Verdict.unread] using hts, fun k hk => ?_⟩
    rw [List.append_assoc, List.cons_append]
    have hrun := run (s :: (front' ++ k)) rfl
    obtain ⟨us, hus⟩ := exists_cons_of_append (k := s :: (front' ++ k)) hts rfl
    rw [hus] at hrun ⊢
    exact .moreElements ht hrun hs (run' k hk)

/-- A run takes its tokens from the front. -/
theorem Run.suffix {task : Task} {ts : List Token} {v : Verdict} (run : Run task ts v) : v.unread <:+ ts := by
  obtain ⟨front, hts, -⟩ := run.lookahead
  exact ⟨front, hts.symm⟩

/-! ### How a fault arises -/

/-- The ways in which a fault is found, and the tokens that are unread then. A rule that has entered another fails as the
other does, and that is no way of its own. -/
inductive Arises : Fault → List Token → Prop where
  /-- Nothing follows a connective. -/
  | join {c : Connective} : Arises (.operandMissing c.word) []
  /-- Nothing follows an operator that relates. -/
  | relate {t : Token} {family : Family} : t.relation? = some family → Arises (.operandMissing t.value) []
  /-- Nothing follows an opening parenthesis. -/
  | parens : Arises (.operandMissing "(") []
  /-- Nothing follows an opening bracket. -/
  | list : Arises (.operandMissing "[") []
  /-- Nothing follows a comma. -/
  | comma : Arises (.operandMissing ",") []
  /-- Nothing follows an expression in parentheses, or an element. -/
  | ended : Arises .endedEarly []
  /-- No expression begins with the token. -/
  | unexpected {t : Token} {k : List Token} :
      leaf? t = none → t.kind ≠ .bracketOpen → t.kind ≠ .parenOpen → Arises (.unexpected t) (t :: k)
  /-- Another token stands where the closing parenthesis is needed. -/
  | unclosed {z : Token} {k : List Token} : z.kind ≠ .parenClose → Arises (.mismatch .parenClose z) (z :: k)
  /-- An element is followed by a token that neither ends the list nor separates elements. -/
  | unseparated {s : Token} {k : List Token} :
      s.kind ≠ .bracketClose → s.kind ≠ .comma → Arises (.mismatch .comma s) (s :: k)

/-- Every run that fails does so in one of these ways. -/
theorem Run.arises {task : Task} {ts k : List Token} {fault : Fault} (h : Run task ts (.rejected fault k)) :
    Arises fault k := by
  generalize hv : Verdict.rejected fault k = v at h
  induction h with
  | operandFails _ ih | joinFails _ _ ih | firstFails _ ih | relateFails _ _ _ _ ih | parensFails _ _ ih
  | listFails _ _ ih | elementFails _ _ ih | moreFails _ _ _ _ _ ih => exact ih hv
  | operand _ _ _ ih | join _ _ _ _ ih => exact ih hv
  | joinMissing => cases hv; exact .join
  | relateMissing _ ht => cases hv; exact .relate ht
  | parensMissing => cases hv; exact .parens
  | listMissing => cases hv; exact .list
  | elementMissing => cases hv; exact .comma
  | parensEnds | elementEnds => cases hv; exact .ended
  | unexpected ht hb hp => cases hv; exact .unexpected ht hb hp
  | parensMismatch _ _ hz => cases hv; exact .unclosed hz
  | elementMismatch _ _ hz hs => cases hv; exact .unseparated hz hs
  | _ => cases hv

/-- How a rule fails: at the end of the tokens, or at a token, and then the fault is about this token. -/
theorem Run.fault_cases {task : Task} {ts k : List Token} {fault : Fault} (h : Run task ts (.rejected fault k)) :
    (k = [] ∧ fault.isAtEnd = true) ∨
      ∃ t k', k = t :: k' ∧ (fault = .unexpected t ∨ ∃ kind, fault = .mismatch kind t) := by
  cases h.arises with
  | unexpected => exact .inr ⟨_, _, rfl, .inl rfl⟩
  | unclosed | unseparated => exact .inr ⟨_, _, rfl, .inr ⟨_, rfl⟩⟩
  | _ => exact .inl ⟨rfl, rfl⟩

/-! ### Failed readings -/

/-- A reading fails if there are no tokens, if the rule of an expression fails, or if it leaves tokens unread. -/
theorem sentence_eq_error_iff {ts k : List Token} {fault : Fault} :
    sentence ts = .error (fault, k) ↔
      (ts = [] ∧ fault = .empty ∧ k = []) ∨
      Run (.read (.chain .or)) ts (.rejected fault k) ∨
      (fault = .leftover ∧ k ≠ [] ∧ ∃ e, Run (.read (.chain .or)) ts (.accepted e k)) := by
  constructor
  · intro h
    by_cases hts : ts = []
    · simp only [sentence, hts, if_true, Except.error.injEq, Prod.mk.injEq] at h
      exact .inl ⟨hts, h.1.symm, h.2.symm⟩
    · have run : Run (.read (.chain .or)) ts (.ofOutcome (chain .or ts)) := run_iff.mpr ⟨hts, rfl⟩
      simp only [sentence, hts, if_false] at h
      split at h
      · next hchain =>
        cases h
        rw [hchain] at run
        exact .inr (.inl run)
      · cases h
      · next hchain =>
        cases h
        rw [hchain] at run
        exact .inr (.inr ⟨rfl, List.cons_ne_nil _ _, _, run⟩)
  · rintro (⟨rfl, rfl, rfl⟩ | run | ⟨rfl, hk, e, run⟩)
    · rfl
    · obtain ⟨hts, hchain⟩ := run_iff.mp run
      rw [Performs, Verdict.ofOutcome_eq_rejected_iff] at hchain
      simp only [sentence, hts, if_false, hchain]
    · obtain ⟨hts, hchain⟩ := run_iff.mp run
      rw [Performs, Verdict.ofOutcome_eq_accepted_iff] at hchain
      obtain ⟨shorter, hchain⟩ := hchain
      obtain ⟨t, k, rfl⟩ := List.exists_cons_of_ne_nil hk
      simp only [sentence, hts, if_false, hchain]

/-- How a reading fails: at the end of the tokens, or at a token, and then the fault is about this token or about there
being one. -/
theorem fault_cases_of_sentence {ts k : List Token} {fault : Fault} (h : sentence ts = .error (fault, k)) :
    (k = [] ∧ fault.isAtEnd = true) ∨
      ∃ t k', k = t :: k' ∧ (fault = .leftover ∨ fault = .unexpected t ∨ ∃ kind, fault = .mismatch kind t) := by
  rcases sentence_eq_error_iff.mp h with ⟨-, rfl, rfl⟩ | run | ⟨rfl, hk, -⟩
  · exact .inl ⟨rfl, rfl⟩
  · refine run.fault_cases.imp id ?_
    rintro ⟨t, k', hk, hfault⟩
    exact ⟨t, k', hk, .inr hfault⟩
  · obtain ⟨t, k', rfl⟩ := List.exists_cons_of_ne_nil hk
    exact .inr ⟨t, k', rfl, .inl rfl⟩

/-- A failed reading has come to the end of the tokens just if its fault consists in that. -/
theorem isAtEnd_iff_of_sentence {ts k : List Token} {fault : Fault} (h : sentence ts = .error (fault, k)) :
    fault.isAtEnd = true ↔ k = [] := by
  rcases fault_cases_of_sentence h with ⟨rfl, hend⟩ | ⟨t, k', rfl, rfl | rfl | ⟨kind, rfl⟩⟩
  · exact iff_of_true hend rfl
  all_goals simp [Fault.isAtEnd]

/-- The unread tokens of a failed reading are at the end of all tokens. -/
theorem exists_front_of_sentence {ts k : List Token} {fault : Fault} (h : sentence ts = .error (fault, k)) :
    ∃ front, ts = front ++ k := by
  rcases sentence_eq_error_iff.mp h with ⟨rfl, -, rfl⟩ | run | ⟨-, -, e, run⟩
  · exact ⟨[], rfl⟩
  · obtain ⟨front, hts, -⟩ := run.lookahead
    exact ⟨front, hts⟩
  · obtain ⟨front, hts, -⟩ := run.lookahead
    exact ⟨front, hts⟩

/-- The token that a fault is about is at hand when the fault is found. -/
theorem exists_unread_of_fault {ts k : List Token} {t : Token} {fault : Fault} (h : sentence ts = .error (fault, k))
    (hfault : fault = .unexpected t ∨ ∃ kind, fault = .mismatch kind t) : ∃ k', k = t :: k' := by
  rcases fault_cases_of_sentence h with ⟨-, hend⟩ | ⟨u, k', rfl, rfl | rfl | ⟨kind, rfl⟩⟩
  · rcases hfault with rfl | ⟨kind, rfl⟩ <;> cases hend
  · rcases hfault with hfault | ⟨kind, hfault⟩ <;> cases hfault
  · rcases hfault with hfault | ⟨kind, hfault⟩ <;> cases hfault
    exact ⟨k', rfl⟩
  · rcases hfault with hfault | ⟨kind, hfault⟩ <;> cases hfault
    exact ⟨k', rfl⟩

/-- The token that a fault is about is one of the tokens. -/
theorem mem_of_fault {ts k : List Token} {t : Token} {fault : Fault} (h : sentence ts = .error (fault, k))
    (hfault : fault = .unexpected t ∨ ∃ kind, fault = .mismatch kind t) : t ∈ ts := by
  obtain ⟨front, rfl⟩ := exists_front_of_sentence h
  obtain ⟨k', rfl⟩ := exists_unread_of_fault h hfault
  simp

/-- **A failed reading looks no further than the token at hand**: it fails in the same way on all tokens that begin so. -/
theorem sentence_lookahead {front k : List Token} {t : Token} {fault : Fault}
    (h : sentence (front ++ t :: k) = .error (fault, t :: k)) (k' : List Token) :
    sentence (front ++ t :: k') = .error (fault, t :: k') := by
  rcases sentence_eq_error_iff.mp h with ⟨-, -, hk⟩ | run | ⟨rfl, -, e, run⟩
  · cases hk
  · obtain ⟨front', hfront, run'⟩ := run.lookahead
    obtain rfl := List.append_cancel_right hfront
    exact sentence_eq_error_iff.mpr (.inr (.inl (run' (t :: k') rfl)))
  · obtain ⟨front', hfront, run'⟩ := run.lookahead
    obtain rfl := List.append_cancel_right hfront
    exact sentence_eq_error_iff.mpr (.inr (.inr ⟨rfl, List.cons_ne_nil _ _, e, run' (t :: k') rfl⟩))

/-- A diagnostic tells the fault that was found, and points at the token that is blamed for it. -/
theorem parseTokens_eq_error_iff {start : Nat} {ts : List Token} {ds : Diagnostics} :
    parseTokens start ts = .error ds ↔
      ∃ fault k, sentence ts = .error (fault, k) ∧ .singleton ⟨blamed start ts k, fault.message⟩ = ds := by
  unfold parseTokens
  constructor
  · intro h
    split at h
    · cases h
    · next fault k hsentence =>
      cases h
      exact ⟨fault, k, hsentence, rfl⟩
  · rintro ⟨fault, k, hsentence, rfl⟩
    rw [hsentence]

end FilterLang.Grammar
