import FilterLang.Proofs.Grammar.Run

/-!
# Reading follows the grammar

What a rule reads, the grammar derives (`Run.sound`), and what the grammar derives, the rule reads, whatever token
follows that cannot go on with it (`Derives.complete`). So a token list is accepted just when it is a sentence, with the
tree of the sentence (`sentence_eq_ok_iff`).

Both proofs are inductions, the first on a run and the second on a derivation. A chain nests to the left, so its run has
joined what it read so far before the next operand is looked at; both invariants speak about that left part.
-/

namespace FilterLang.Grammar

open Parse

/-! ### Soundness -/

/-- What may stand between the brackets of a list. -/
inductive Contents : List Token → Expr → Prop where
  /-- Nothing. -/
  | empty : Contents [] (.list [])
  /-- Elements. -/
  | elements {ts : List Token} {e : Expr} : Derives .elements ts e → Contents ts e
  /-- Elements and a comma. -/
  | trailing {ts : List Token} {s : Token} {e : Expr} :
      Derives .elements ts e → s.kind = .comma → Contents (ts ++ [s]) e

theorem Contents.derives {a z : Token} {ts : List Token} {e : Expr} (h : Contents ts e) (ha : a.kind = .bracketOpen)
    (hz : z.kind = .bracketClose) : Derives .primary (a :: (ts ++ [z])) e := by
  cases h with
  | empty => exact .empty ha hz
  | elements h => exact .list ha h hz
  | trailing h hs =>
    rw [List.append_assoc]
    exact .trailing ha h hs hz

/-- One more element in front. -/
theorem Contents.more {ts rs : List Token} {s : Token} {e : Expr} {es : List Expr} (he : Derives (.chain .or) ts e)
    (hs : s.kind = .comma) (h : Contents rs (.list es)) : Contents (ts ++ s :: rs) (.list (e :: es)) := by
  generalize hl : Expr.list es = l at h
  cases h with
  | empty => cases hl; exact .trailing (.last he) hs
  | elements h => subst hl; exact .elements (.more he hs h)
  | @trailing rs s' _ h hs' =>
    subst hl
    rw [show ts ++ s :: (rs ++ [s']) = ts ++ s :: rs ++ [s'] by simp]
    exact .trailing (.more he hs h) hs'

/-- What a rule reads. The reading of the elements of a list goes on up to the closing bracket. -/
def Reads : Rule → List Token → Expr → Prop
  | .elements => Contents
  | rule => Derives rule

theorem reads_operand_iff {c : Connective} {ts : List Token} {e : Expr} :
    Reads (operand c) ts e ↔ Derives (operand c) ts e := by
  cases c <;> rfl

/-- A verdict is right about the tokens that have been read. -/
def Sound : Task → List Token → Verdict → Prop
  | _, _, .rejected _ _ => True
  | .read rule, ts, .accepted e k => ∃ front, ts = front ++ k ∧ Reads rule front e
  | .further c left, ts, .accepted e k =>
    ∃ front, ts = front ++ k ∧ ∀ ls, Derives (.chain c) ls left → Derives (.chain c) (ls ++ front) e

/-- **What a rule reads, the grammar derives.** -/
theorem Run.sound {task : Task} {ts : List Token} {v : Verdict} (h : Run task ts v) : Sound task ts v := by
  induction h with
  | @operand c ts k left v _ _ ih ih' =>
    cases v with
    | rejected fault k' => trivial
    | accepted e k' =>
      obtain ⟨front, rfl, hl⟩ := ih
      obtain ⟨front', rfl, hr⟩ := ih'
      refine ⟨front ++ front', (List.append_assoc ..).symm, ?_⟩
      exact hr front (.operand (reads_operand_iff.mp hl))
  | exhausted => exact ⟨[], rfl, fun ls hl => by rwa [List.append_nil]⟩
  | stop => exact ⟨[], rfl, fun ls hl => by rwa [List.append_nil]⟩
  | @join c left right t ts k v ht _ _ ih ih' =>
    cases v with
    | rejected fault k' => trivial
    | accepted e k' =>
      obtain ⟨front, rfl, hr⟩ := ih
      obtain ⟨front', rfl, he⟩ := ih'
      refine ⟨t :: (front ++ front'), by simp, fun ls hl => ?_⟩
      have := he (ls ++ t :: front) (.join hl ht (reads_operand_iff.mp hr))
      rwa [List.append_assoc] at this
  | only _ ih =>
    obtain ⟨front, rfl, h⟩ := ih
    exact ⟨front, rfl, .primary h⟩
  | unrelated _ _ ih =>
    obtain ⟨front, rfl, h⟩ := ih
    exact ⟨front, rfl, .primary h⟩
  | @relate ts us k t family left right _ ht _ ih ih' =>
    obtain ⟨front, rfl, hl⟩ := ih
    obtain ⟨front', rfl, hr⟩ := ih'
    exact ⟨front ++ t :: front', by simp, .relate hl (relation?_eq_some_iff.mp ht) hr⟩
  | @leaf t k e ht => exact ⟨[t], rfl, .leaf (leaf?_eq_some_iff.mp ht)⟩
  | @parens a z ts k e ha _ hz ih =>
    obtain ⟨front, rfl, h⟩ := ih
    exact ⟨a :: (front ++ [z]), by simp, .parens ha h hz⟩
  | @list a z ts k e ha _ hz ih =>
    obtain ⟨front, rfl, h⟩ := ih
    exact ⟨a :: (front ++ [z]), by simp, h.derives ha hz⟩
  | noElement => exact ⟨[], rfl, .empty⟩
  | lastElement _ _ _ ih =>
    obtain ⟨front, hts, h⟩ := ih
    exact ⟨front, hts, .elements (.last h)⟩
  | @moreElements t s ts us k e es _ _ hs _ ih ih' =>
    obtain ⟨front, hts, h⟩ := ih
    obtain ⟨front', rfl, h'⟩ := ih'
    exact ⟨front ++ s :: front', by simp [hts], .more h hs h'⟩
  | _ => trivial

/-! ### Completeness -/

/-- A token goes on with what a rule derives. -/
def Extends : Rule → Token → Prop
  | .chain .or, t => t.isOperator Connective.or.word ∨ t.isOperator Connective.and.word ∨ ∃ family, Relates t family
  | .chain .and, t => t.isOperator Connective.and.word ∨ ∃ family, Relates t family
  | .comparison, t => ∃ family, Relates t family
  | .primary, _ => False
  | .elements, t => t.kind ≠ .bracketClose

/-- No token, or one that does not go on with what a rule derives. -/
def Stops (rule : Rule) (k : List Token) : Prop := ∀ t ∈ k.head?, ¬ Extends rule t

@[simp] theorem stops_nil (rule : Rule) : Stops rule [] := by simp [Stops]

@[simp] theorem stops_cons_iff {rule : Rule} {t : Token} {k : List Token} : Stops rule (t :: k) ↔ ¬ Extends rule t := by
  simp [Stops]

theorem stops_primary (k : List Token) : Stops .primary k := fun _ _ h => h

theorem extends_chain_iff {c : Connective} {t : Token} :
    Extends (.chain c) t ↔ t.isOperator c.word ∨ Extends (operand c) t := by
  cases c <;> simp [Extends, operand]

/-- What stops a chain stops its last operand. -/
theorem Stops.operand {c : Connective} {k : List Token} (h : Stops (.chain c) k) : Stops (operand c) k :=
  fun t ht he => h t ht (extends_chain_iff.mpr (Or.inr he))

/-- The word of a connective stops what it joins. -/
theorem not_extends_operand {c : Connective} {t : Token} (ht : t.isOperator c.word) : ¬ Extends (operand c) t := by
  have hrel : ¬ ∃ family, Relates t family := fun ⟨_, h⟩ => h.not_isOperator c ht
  cases c with
  | and => exact hrel
  | or =>
    rintro (h | h)
    · rw [isOperator_iff] at ht h
      rw [ht.2] at h
      exact absurd h.2 (by decide)
    · exact hrel h

/-- A token that is no operator stops a chain. -/
theorem not_extends_chain {c : Connective} {t : Token} (ht : t.kind ≠ .operator) : ¬ Extends (.chain c) t := by
  have hop : ∀ word, ¬ t.isOperator word := fun _ h => ht (isOperator_iff.mp h).1
  have hrel : ¬ ∃ family, Relates t family := by
    rintro ⟨_, h⟩
    exact ht h.1
  cases c with
  | or =>
    rintro (h | h | h)
    · exact hop _ h
    · exact hop _ h
    · exact hrel h
  | and =>
    rintro (h | h)
    · exact hop _ h
    · exact hrel h

theorem Stops.relation?_eq_none {t : Token} {k : List Token} (h : Stops .comparison (t :: k)) : t.relation? = none := by
  cases hr : t.relation? with
  | none => rfl
  | some family => exact absurd ⟨family, relation?_eq_some_iff.mp hr⟩ (stops_cons_iff.mp h)

/-- What is derived begins with a leaf or an opening token. -/
theorem Derives.head {rule : Rule} {ts : List Token} {e : Expr} (h : Derives rule ts e) :
    ∃ t ts', ts = t :: ts' ∧ ((∃ e', Leaf t e') ∨ t.kind = .parenOpen ∨ t.kind = .bracketOpen) := by
  induction h with
  | operand _ ih => exact ih
  | primary _ ih => exact ih
  | last _ ih => exact ih
  | @leaf t e h => exact ⟨t, [], rfl, Or.inl ⟨e, h⟩⟩
  | parens ha => exact ⟨_, _, rfl, Or.inr (Or.inl ha)⟩
  | empty ha => exact ⟨_, _, rfl, Or.inr (Or.inr ha)⟩
  | list ha => exact ⟨_, _, rfl, Or.inr (Or.inr ha)⟩
  | trailing ha => exact ⟨_, _, rfl, Or.inr (Or.inr ha)⟩
  | join _ _ _ ih | relate _ _ _ ih | more _ _ _ ih =>
    obtain ⟨t, ts', rfl, h⟩ := ih
    exact ⟨t, _, rfl, h⟩

/-- The first token of what is derived has none of the other kinds. -/
theorem Derives.head_kind {rule : Rule} {ts : List Token} {e : Expr} (h : Derives rule ts e) :
    ∃ t ts', ts = t :: ts' ∧ t.kind ≠ .comma ∧ t.kind ≠ .bracketClose := by
  obtain ⟨t, ts', rfl, ⟨e', hl⟩ | hp | hb⟩ := h.head
  · exact ⟨t, ts', rfl, hl.kind_ne.2.1, hl.kind_ne.2.2.2.1⟩
  · exact ⟨t, ts', rfl, by simp [hp], by simp [hp]⟩
  · exact ⟨t, ts', rfl, by simp [hb], by simp [hb]⟩

/-- What is derived is read, and no more than it. A chain is read and joined with what follows. -/
def Complete : Rule → List Token → Expr → Prop
  | .chain c, ts, e =>
    ∀ k v, Stops (operand c) k → Run (.further c e) k v → Run (.read (.chain c)) (ts ++ k) v
  | .elements, ts, e =>
    ∀ z k, z.kind = .bracketClose → Run (.read .elements) (ts ++ z :: k) (.accepted e (z :: k)) ∧
      ∀ s : Token, s.kind = .comma → Run (.read .elements) (ts ++ s :: z :: k) (.accepted e (z :: k))
  | rule, ts, e => ∀ k, Stops rule k → Run (.read rule) (ts ++ k) (.accepted e k)

/-- Where a chain stops, nothing more is joined. -/
theorem further_of_stops {c : Connective} {left : Expr} {k : List Token} (h : Stops (.chain c) k) :
    Run (.further c left) k (.accepted left k) := by
  cases k with
  | nil => exact .exhausted
  | cons t k => exact .stop fun ht => stops_cons_iff.mp h (extends_chain_iff.mpr (Or.inl ht))

theorem Complete.chain {c : Connective} {ts k : List Token} {e : Expr} (h : Complete (.chain c) ts e)
    (hk : Stops (.chain c) k) : Run (.read (.chain c)) (ts ++ k) (.accepted e k) :=
  h k _ hk.operand (further_of_stops hk)

theorem Complete.operand {c : Connective} {ts k : List Token} {e : Expr} (h : Complete (operand c) ts e)
    (hk : Stops (Grammar.operand c) k) : Run (.read (Grammar.operand c)) (ts ++ k) (.accepted e k) := by
  cases c with
  | or => exact Complete.chain h hk
  | and => exact h k hk

/-- **What the grammar derives, a rule reads.** -/
theorem Derives.complete {rule : Rule} {ts : List Token} {e : Expr} (h : Derives rule ts e) : Complete rule ts e := by
  induction h with
  | operand _ ih => exact fun k v hk run => .operand (Complete.operand ih hk) run
  | @join c ls rs t left right _ ht _ ihl ihr =>
    intro k v hk run
    rw [List.append_assoc]
    exact ihl _ v (stops_cons_iff.mpr (not_extends_operand ht)) (.join ht (Complete.operand ihr hk) run)
  | @primary ts e _ ih =>
    intro k hk
    have run := ih k (stops_primary k)
    cases k with
    | nil => exact .only run
    | cons t k => exact .unrelated run hk.relation?_eq_none
  | @relate ls rs t family left right _ ht _ ihl ihr =>
    intro k hk
    rw [List.append_assoc]
    exact .relate (ihl _ (stops_primary _)) (relation?_eq_some_iff.mpr ht) (ihr k (stops_primary k))
  | leaf h => exact fun k _ => .leaf (leaf?_eq_some_iff.mpr h)
  | @parens a z ts e ha _ hz ih =>
    intro k _
    have run := Complete.chain ih (k := z :: k) (stops_cons_iff.mpr (not_extends_chain (by simp [hz])))
    rw [List.cons_append, List.append_assoc]
    exact .parens ha run hz
  | empty ha hz => exact fun k _ => .list ha (.noElement hz) hz
  | @list a z ts e ha _ hz ih =>
    intro k _
    rw [List.cons_append, List.append_assoc]
    exact .list ha (ih z k hz).1 hz
  | @trailing a s z ts e ha _ hs hz ih =>
    intro k _
    rw [List.cons_append, List.append_assoc]
    exact .list ha ((ih z k hz).2 s hs) hz
  | @last ts e h ih =>
    intro z k hz
    obtain ⟨t, ts, rfl, -, ht⟩ := h.head_kind
    refine ⟨.lastElement ht (Complete.chain ih ?_) hz, fun s hs => ?_⟩
    · exact stops_cons_iff.mpr (not_extends_chain (by simp [hz]))
    · exact .moreElements ht (Complete.chain ih (stops_cons_iff.mpr (not_extends_chain (by simp [hs])))) hs
        (.noElement hz)
  | @more ts rs s e es h hs _ ih ih' =>
    intro z k hz
    obtain ⟨t, ts, rfl, -, ht⟩ := h.head_kind
    have run : ∀ k, Run (.read (.chain .or)) (t :: ts ++ s :: k) (.accepted e (s :: k)) := fun k =>
      Complete.chain ih (stops_cons_iff.mpr (not_extends_chain (by simp [hs])))
    rw [List.append_assoc]
    refine ⟨.moreElements ht (run _) hs (ih' z k hz).1, fun s' hs' => ?_⟩
    rw [List.append_assoc]
    exact .moreElements ht (run _) hs ((ih' z k hz).2 s' hs')

/-! ### Sentences -/

theorem sentence_eq_ok_iff_run {ts : List Token} {e : Expr} :
    sentence ts = .ok e ↔ Run (.read (.chain .or)) ts (.accepted e []) := by
  rw [run_iff, Performs, Verdict.ofOutcome_eq_accepted_iff]
  by_cases hts : ts = []
  · simp [sentence, hts]
  · simp only [sentence, hts, if_false, ne_eq, not_false_eq_true, true_and]
    constructor
    · intro h
      split at h
      · cases h
      · next shorter heq => cases h; exact ⟨shorter, heq⟩
      · cases h
    · rintro ⟨shorter, h⟩
      rw [h]

/-- A token list is accepted with the tree of the sentence that it is. -/
theorem sentence_eq_ok_iff {ts : List Token} {e : Expr} : sentence ts = .ok e ↔ Sentence ts e := by
  rw [sentence_eq_ok_iff_run]
  constructor
  · intro h
    obtain ⟨front, rfl, he⟩ := h.sound
    rwa [List.append_nil]
  · intro h
    have run := Complete.chain h.complete (k := []) (stops_nil _)
    rwa [List.append_nil] at run

theorem parseTokens_ok_iff_sentence {start : Nat} {ts : List Token} {e : Expr} :
    parseTokens start ts = .ok e ↔ Sentence ts e := by
  rw [← sentence_eq_ok_iff, parseTokens]
  split <;> simp_all

/-- A sentence has one tree. -/
theorem Sentence.unique {ts : List Token} {e e' : Expr} (h : Sentence ts e) (h' : Sentence ts e') : e = e' := by
  rw [← sentence_eq_ok_iff] at h h'
  rw [h] at h'
  exact Except.ok.inj h'

/-- A token list is rejected just if no rule derives a tree from it. -/
theorem parseTokens_error_iff {start : Nat} {ts : List Token} :
    (∃ ds, parseTokens start ts = .error ds) ↔ ¬ ∃ e, Sentence ts e := by
  constructor
  · rintro ⟨ds, hds⟩ ⟨e, he⟩
    rw [parseTokens_ok_iff_sentence.mpr he] at hds
    cases hds
  · intro h
    cases hparse : parseTokens start ts with
    | ok e => exact absurd ⟨e, parseTokens_ok_iff_sentence.mp hparse⟩ h
    | error ds => exact ⟨ds, rfl⟩

end FilterLang.Grammar
