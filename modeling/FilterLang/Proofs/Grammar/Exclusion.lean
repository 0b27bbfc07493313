import FilterLang.Proofs.Grammar.Exact

/-!
# What no expression holds

Some token sequences stand in no sentence, at no depth: an invalid token, `not`, a comma right after an opening bracket
or another comma, and a second operator of equality or comparison after the operand of the first (`Excluded`).

The main statement, `parseTokens_eq_ok_iff`, puts this together with the exactness of reading: a token list is accepted
just when it is a sentence, it has one tree, and an excluded sequence anywhere in it keeps it from being accepted.
-/

namespace FilterLang.Grammar

/-- The token list begins with a sequence that stands in no sentence. -/
inductive Excluded : List Token → Prop where
  /-- A character or an escape that has no meaning. -/
  | invalid {t : Token} {k : List Token} : t.kind = .invalid → Excluded (t :: k)
  /-- `not`, which no rule uses. -/
  | not {t : Token} {k : List Token} : t.isOperator "not" → Excluded (t :: k)
  /-- `[ ,`. -/
  | leading {a s : Token} {k : List Token} : a.kind = .bracketOpen → s.kind = .comma → Excluded (a :: s :: k)
  /-- `, ,`. -/
  | doubled {s s' : Token} {k : List Token} : s.kind = .comma → s'.kind = .comma → Excluded (s :: s' :: k)
  /-- Two operators of equality or comparison with one operand between them. -/
  | chained {t t' : Token} {family family' : Family} {ts k : List Token} {e : Expr} :
      Relates t family → Derives .primary ts e → Relates t' family' → Excluded (t :: (ts ++ t' :: k))

/-! ### Everywhere in a token list -/

/-- A property of token lists holds wherever one begins in `ts`, with `k` behind it. -/
def Throughout (P : List Token → Prop) : List Token → List Token → Prop
  | [], _ => True
  | t :: ts, k => P (t :: (ts ++ k)) ∧ Throughout P ts k

theorem throughout_append {P : List Token → Prop} {ts us k : List Token} :
    Throughout P (ts ++ us) k ↔ Throughout P ts (us ++ k) ∧ Throughout P us k := by
  induction ts with
  | nil => simp [Throughout]
  | cons t ts ih => simp [Throughout, ih, and_assoc]

theorem Throughout.of_suffix {P : List Token → Prop} {front k : List Token} (h : Throughout P (front ++ k) [])
    (hk : k ≠ []) : P k := by
  rw [throughout_append] at h
  cases k with
  | nil => exact absurd rfl hk
  | cons t k =>
    have := h.2.1
    rwa [List.append_nil] at this

/-! ### What begins no excluded sequence -/

/-- Where a comma is not allowed next, the next token is none. -/
theorem not_excluded_of_kind {t : Token} {k : List Token} (hi : t.kind ≠ .invalid) (ho : t.kind ≠ .operator)
    (hk : t.kind = .bracketOpen ∨ t.kind = .comma → ∀ s ∈ k.head?, s.kind ≠ .comma) : ¬ Excluded (t :: k) := by
  intro h
  generalize hl : t :: k = l at h
  cases h with
  | invalid h => cases hl; exact hi h
  | not h =>
    cases hl
    rw [isOperator_iff] at h
    exact ho h.1
  | leading ha hs => cases hl; exact hk (Or.inl ha) _ rfl hs
  | doubled hs hs' => cases hl; exact hk (Or.inr hs) _ rfl hs'
  | chained h => cases hl; exact ho h.1

/-- The word of a connective begins no excluded sequence. -/
theorem not_excluded_of_isOperator {c : Connective} {t : Token} {k : List Token} (ht : t.isOperator c.word) :
    ¬ Excluded (t :: k) := by
  have hword : t.kind = .operator ∧ t.value = c.word := isOperator_iff.mp ht
  intro h
  generalize hl : t :: k = l at h
  cases h with
  | invalid h => cases hl; rw [hword.1] at h; cases h
  | not h =>
    cases hl
    rw [isOperator_iff] at h
    rw [hword.2] at h
    cases c <;> exact absurd h.2 (by decide)
  | leading ha => cases hl; rw [hword.1] at ha; cases ha
  | doubled hs => cases hl; rw [hword.1] at hs; cases hs
  | chained h => cases hl; exact h.not_isOperator c ht

/-- A run of a rule is determined by the rule and the tokens. -/
theorem Run.unique {rule : Rule} {ts : List Token} {v v' : Verdict} (h : Run (.read rule) ts v)
    (h' : Run (.read rule) ts v') : v = v' := by
  have hp := h.performs
  have hp' := h'.performs
  cases rule <;> exact hp.symm.trans hp'

/-- At the front of a token list there is one primary at most. -/
theorem Derives.primary_unique {ts ts' k k' : List Token} {e e' : Expr} (h : Derives .primary ts e)
    (h' : Derives .primary ts' e') (heq : ts ++ k = ts' ++ k') : k = k' := by
  have run := h.complete k (stops_primary k)
  have run' := h'.complete k' (stops_primary k')
  rw [heq] at run
  cases run.unique run'
  rfl

/-- An operator that relates begins no excluded sequence, if what follows its right operand relates no further. -/
theorem not_excluded_of_relates {t : Token} {family : Family} {ts k : List Token} {e : Expr} (ht : Relates t family)
    (hr : Derives .primary ts e) (hk : Stops .comparison k) : ¬ Excluded (t :: (ts ++ k)) := by
  intro h
  generalize hl : t :: (ts ++ k) = l at h
  cases h with
  | invalid h => cases hl; rw [ht.1] at h; cases h
  | not h =>
    cases hl
    rw [isOperator_iff] at h
    have := ht.2.1
    rw [h.2] at this
    exact absurd this (by decide)
  | leading ha =>
    obtain ⟨rfl, -⟩ := List.cons.inj hl
    rw [ht.1] at ha
    cases ha
  | doubled hs =>
    obtain ⟨rfl, -⟩ := List.cons.inj hl
    rw [ht.1] at hs
    cases hs
  | chained _ hm ht' =>
    obtain ⟨-, heq⟩ := List.cons.inj hl
    rw [hr.primary_unique hm heq] at hk
    exact stops_cons_iff.mp hk ⟨_, ht'⟩

theorem stops_comparison_of_kind {t : Token} {k : List Token} (ht : t.kind ≠ .operator) :
    Stops .comparison (t :: k) := stops_cons_iff.mpr fun ⟨_, h⟩ => ht h.1

theorem stops_comparison_of_isOperator {c : Connective} {t : Token} {k : List Token} (ht : t.isOperator c.word) :
    Stops .comparison (t :: k) := stops_cons_iff.mpr fun ⟨_, h⟩ => h.not_isOperator c ht

/-! ### Sentences -/

/-- The first token of what is derived is no comma, whatever follows. -/
theorem Derives.head_ne_comma {rule : Rule} {ts : List Token} {e : Expr} (h : Derives rule ts e) (k : List Token) :
    ∀ s ∈ (ts ++ k).head?, s.kind ≠ .comma := by
  obtain ⟨t, ts, rfl, hc, -⟩ := h.head_kind
  rintro s ⟨⟩
  exact hc

/-- Nothing that is derived holds an excluded sequence, and none begins in it either, if what follows does not relate.
The induction is on the derivation, with what follows as a parameter: for a part it is the rest of the whole. -/
theorem Derives.throughout {rule : Rule} {ts : List Token} {e : Expr} (h : Derives rule ts e) (k : List Token)
    (hk : rule = .primary ∨ Stops .comparison k) : Throughout (fun l => ¬ Excluded l) ts k := by
  induction h generalizing k with
  | @operand c ts e _ ih =>
    obtain hk | hk := hk
    · cases hk
    · exact ih k (Or.inr hk)
  | @join c ls rs t left right _ ht _ ihl ihr =>
    obtain hk | hk := hk
    · cases hk
    · rw [throughout_append]
      exact ⟨ihl _ (Or.inr (stops_comparison_of_isOperator ht)), not_excluded_of_isOperator ht, ihr k (Or.inr hk)⟩
  | primary _ ih => exact ih k (Or.inl rfl)
  | @relate ls rs t family left right _ ht hr ihl ihr =>
    obtain hk | hk := hk
    · cases hk
    · rw [throughout_append]
      exact ⟨ihl _ (Or.inl rfl), not_excluded_of_relates ht hr hk, ihr k (Or.inl rfl)⟩
  | leaf h =>
    obtain ⟨ho, hc, hb, -, -, hi⟩ := h.kind_ne
    exact ⟨not_excluded_of_kind hi ho fun h => absurd h (by simp [hb, hc]), trivial⟩
  | @parens a z ts e ha _ hz ih =>
    refine ⟨not_excluded_of_kind (by simp [ha]) (by simp [ha]) (by simp [ha]), throughout_append.mpr ⟨?_, ?_, trivial⟩⟩
    · exact ih _ (Or.inr (stops_comparison_of_kind (by simp [hz])))
    · exact not_excluded_of_kind (by simp [hz]) (by simp [hz]) (by simp [hz])
  | @empty a z ha hz =>
    refine ⟨not_excluded_of_kind (by simp [ha]) (by simp [ha]) fun _ => ?_, ?_, trivial⟩
    · rintro s ⟨⟩
      simp [hz]
    · exact not_excluded_of_kind (by simp [hz]) (by simp [hz]) (by simp [hz])
  | @list a z ts e ha h hz ih =>
    rw [Throughout, throughout_append, List.append_assoc]
    refine ⟨not_excluded_of_kind (by simp [ha]) (by simp [ha]) fun _ => h.head_ne_comma _, ?_, ?_, trivial⟩
    · exact ih _ (Or.inr (stops_comparison_of_kind (by simp [hz])))
    · exact not_excluded_of_kind (by simp [hz]) (by simp [hz]) (by simp [hz])
  | @trailing a s z ts e ha h hs hz ih =>
    rw [Throughout, throughout_append, List.append_assoc]
    refine ⟨not_excluded_of_kind (by simp [ha]) (by simp [ha]) fun _ => h.head_ne_comma _, ?_, ?_, ?_, trivial⟩
    · exact ih _ (Or.inr (stops_comparison_of_kind (by simp [hs])))
    · refine not_excluded_of_kind (by simp [hs]) (by simp [hs]) fun _ => ?_
      rintro s' ⟨⟩
      simp [hz]
    · exact not_excluded_of_kind (by simp [hz]) (by simp [hz]) (by simp [hz])
  | last _ ih =>
    obtain hk | hk := hk
    · cases hk
    · exact ih k (Or.inr hk)
  | @more ts rs s e es _ hs h ih ih' =>
    obtain hk | hk := hk
    · cases hk
    · rw [throughout_append]
      refine ⟨ih _ (Or.inr (stops_comparison_of_kind (by simp [hs]))), ?_, ih' k (Or.inr hk)⟩
      exact not_excluded_of_kind (by simp [hs]) (by simp [hs]) fun _ => h.head_ne_comma _

theorem Sentence.not_excluded {front k : List Token} {e : Expr} (h : Sentence (front ++ k) e) : ¬ Excluded k := by
  intro hx
  have hk : k ≠ [] := by cases hx <;> simp
  exact (Derives.throughout h [] (Or.inr (stops_nil _))).of_suffix hk hx

/-- **Reading accepts exactly the sentences of the grammar**, with the one tree that the grammar gives them. A token
list that holds an excluded sequence anywhere is accepted with no tree. -/
theorem parseTokens_eq_ok_iff (start : Nat) (ts : List Token) (e : Expr) :
    (parseTokens start ts = .ok e ↔ Sentence ts e) ∧ (∀ e', Sentence ts e → Sentence ts e' → e = e') ∧
      ∀ front k, ts = front ++ k → Excluded k → parseTokens start ts ≠ .ok e := by
  refine ⟨parseTokens_ok_iff_sentence, fun e' h h' => h.unique h', ?_⟩
  rintro front k rfl hx h
  exact (parseTokens_ok_iff_sentence.mp h).not_excluded hx

end FilterLang.Grammar
