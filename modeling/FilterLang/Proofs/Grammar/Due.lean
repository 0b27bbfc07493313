import FilterLang.Proofs.Grammar.Viable

/-!
# Where an operand is due

At the start of the tokens, and behind an operator, a comma or an opening token, an operand has to follow; nothing that
the grammar derives ends there (`Derives.not_operandDue`). So the token that a reading blames is unexpected if an
operand was due, and otherwise it is said what should have been there instead (`Run.preceded`). In particular an invalid
token is unexpected just if what stands before it is viable and an operand is due (`sentence_unexpected_iff`).

Where the tokens end and an operand is due, the fault names what it is due after: an operator word, a comma or an
opening token (`mem_openers_of_sentence`).
-/

namespace FilterLang.Grammar

open Parse

variable {ts us front k : List Token} {a t : Token}

/-! ### What has to be followed -/

/-- An operand has to follow the token. -/
def Awaits (a : Token) : Prop := a.kind ∈ [Token.Kind.operator, .comma, .parenOpen, .bracketOpen]

/-- An operand has to follow the tokens. -/
def OperandDue (ts : List Token) : Prop := ∀ a ∈ ts.getLast?, Awaits a

theorem awaits_of_isOperator {word : String} (h : a.isOperator word) : Awaits a := by
  simp [Awaits, (isOperator_iff.mp h).1]

theorem awaits_of_relates {family : Family} (h : Relates a family) : Awaits a := by simp [Awaits, h.1]

theorem operandDue_append_iff (h : us ≠ []) : OperandDue (ts ++ us) ↔ OperandDue us := by
  obtain ⟨a, ha⟩ := Option.ne_none_iff_exists'.mp (mt List.getLast?_eq_none_iff.mp h)
  rw [OperandDue, OperandDue, List.getLast?_append, ha, Option.some_or]

theorem operandDue_concat_iff : OperandDue (ts ++ [a]) ↔ Awaits a := by simp [OperandDue]

theorem OperandDue.append_cons (ha : Awaits a) (h : OperandDue us) : OperandDue (ts ++ a :: us) := by
  rw [List.append_cons]
  by_cases hus : us = []
  · rw [hus, List.append_nil]
    exact operandDue_concat_iff.mpr ha
  · exact (operandDue_append_iff hus).mpr h

theorem not_operandDue_append (h : ¬ OperandDue us) : ¬ OperandDue (ts ++ us) := by
  have hus : us ≠ [] := by
    rintro rfl
    exact h (by simp [OperandDue])
  rwa [operandDue_append_iff hus]

/-- What the grammar derives has an operand at its end already. -/
theorem Derives.not_operandDue {rule : Rule} {e : Expr} (h : Derives rule ts e) : ¬ OperandDue ts := by
  have hclose : ∀ {ts : List Token} {z : Token}, z.kind = .parenClose ∨ z.kind = .bracketClose →
      ¬ OperandDue (ts ++ [z]) := by
    intro ts z hz
    rw [operandDue_concat_iff]
    rcases hz with hz | hz <;> simp [Awaits, hz]
  induction h with
  | operand _ ih => exact ih
  | primary _ ih => exact ih
  | last _ ih => exact ih
  | join _ _ _ _ ih | relate _ _ _ _ ih | more _ _ _ _ ih =>
    rw [List.append_cons]
    exact not_operandDue_append ih
  | @leaf t e h =>
    obtain ⟨hoperator, hcomma, hbracket, -, hparen, -⟩ := h.kind_ne
    rw [← List.nil_append [t], operandDue_concat_iff]
    simp [Awaits, hoperator, hcomma, hbracket, hparen]
  | @parens a z ts e _ _ hz =>
    rw [← List.cons_append]
    exact hclose (.inl hz)
  | @empty a z _ hz => exact @hclose [a] z (.inr hz)
  | @list a z ts e _ _ hz =>
    rw [← List.cons_append]
    exact hclose (.inr hz)
  | @trailing a s z ts e _ _ _ hz =>
    rw [show a :: (ts ++ [s, z]) = a :: (ts ++ [s]) ++ [z] by simp]
    exact hclose (.inr hz)

/-! ### What stands before a fault -/

/-- What has been read before a fault that is about a token. -/
def Precedes (front : List Token) : Fault → Prop
  | .unexpected _ => OperandDue front
  | .mismatch _ _ => ¬ OperandDue front
  | .leftover => ¬ OperandDue front
  | _ => True

theorem Precedes.append {fault : Fault} (h : Precedes us fault) (hus : us ≠ []) : Precedes (ts ++ us) fault := by
  cases fault with
  | unexpected => exact (operandDue_append_iff hus).mpr h
  | mismatch => exact not_operandDue_append h
  | leftover => exact not_operandDue_append h
  | _ => trivial

theorem Precedes.append_cons {fault : Fault} (h : Precedes us fault) (ha : Awaits a) :
    Precedes (ts ++ a :: us) fault := by
  cases fault with
  | unexpected => exact OperandDue.append_cons ha h
  | mismatch =>
    rw [List.append_cons]
    exact not_operandDue_append h
  | leftover =>
    rw [List.append_cons]
    exact not_operandDue_append h
  | _ => trivial

theorem Precedes.cons {fault : Fault} (h : Precedes us fault) (ha : Awaits a) : Precedes (a :: us) fault := by
  rw [← List.nil_append (a :: us)]
  exact h.append_cons ha

/-- **A token is unexpected where an operand is due, and only there.** Before a task that goes on after an operand can
fail, it has read a token. -/
theorem Run.preceded {task : Task} {fault : Fault} (h : Run task ts (.rejected fault k)) :
    ∃ front, ts = front ++ k ∧ Precedes front fault ∧ ((∃ c left, task = .further c left) → front ≠ []) := by
  generalize hv : Verdict.rejected fault k = v at h
  induction h with
  | operandFails _ ih | firstFails _ ih | elementFails _ _ ih =>
    cases hv
    obtain ⟨front, hts, hfault, -⟩ := ih rfl
    exact ⟨front, hts, hfault, by simp⟩
  | operand run _ _ ih =>
    obtain ⟨front, rfl, -⟩ := run.sound
    obtain ⟨front', rfl, hfault, hne⟩ := ih hv
    exact ⟨front ++ front', (List.append_assoc ..).symm, hfault.append (hne ⟨_, _, rfl⟩), by simp⟩
  | @joinMissing c left t ht =>
    cases hv
    exact ⟨[t], rfl, trivial, by simp⟩
  | @joinFails c left t ts k fault ht _ ih =>
    cases hv
    obtain ⟨front, rfl, hfault, -⟩ := ih rfl
    exact ⟨t :: front, rfl, hfault.cons (awaits_of_isOperator ht), by simp⟩
  | @join c left right t ts k v ht run _ _ ih =>
    obtain ⟨front, rfl, -⟩ := run.sound
    obtain ⟨front', rfl, hfault, hne⟩ := ih hv
    exact ⟨t :: front ++ front', by simp, hfault.append (hne ⟨_, _, rfl⟩), by simp⟩
  | @relateFails ts us k t family left fault run ht _ _ ih =>
    cases hv
    obtain ⟨front, rfl, -⟩ := run.sound
    obtain ⟨front', rfl, hfault, -⟩ := ih rfl
    have hawaits : Awaits t := awaits_of_relates (relation?_eq_some_iff.mp ht)
    exact ⟨front ++ t :: front', by simp, hfault.append_cons hawaits, by simp⟩
  | unexpected =>
    cases hv
    exact ⟨[], rfl, by simp [Precedes, OperandDue], by simp⟩
  | @parensFails a ts k fault ha _ ih | @listFails a ts k fault ha _ ih =>
    cases hv
    obtain ⟨front, rfl, hfault, -⟩ := ih rfl
    exact ⟨a :: front, rfl, hfault.cons (by simp [Awaits, ha]), by simp⟩
  | @parensMismatch a z ts k e _ run _ =>
    cases hv
    obtain ⟨front, rfl, he⟩ := run.sound
    have hfront : ¬ OperandDue ([a] ++ front) := not_operandDue_append he.not_operandDue
    exact ⟨a :: front, rfl, hfront, by simp⟩
  | elementMismatch _ run _ _ =>
    cases hv
    obtain ⟨front, hts, he⟩ := run.sound
    exact ⟨front, hts, he.not_operandDue, by simp⟩
  | @moreFails t s ts us k e fault _ run hs _ _ ih =>
    cases hv
    obtain ⟨front, hts, -⟩ := run.sound
    obtain ⟨front', rfl, hfault, -⟩ := ih rfl
    exact ⟨front ++ s :: front', by simp [hts], hfault.append_cons (by simp [Awaits, hs]), by simp⟩
  | relateMissing | parensMissing | parensEnds | listMissing | elementEnds | elementMissing =>
    cases hv
    exact ⟨_, (List.append_nil _).symm, trivial, by simp⟩
  | _ => cases hv

/-- What a fault names when the tokens end where an operand is due. -/
def openers : List String := "(" :: "[" :: "," :: "or" :: "and" :: relationWords

theorem Run.mem_openers {task : Task} {after : String} (h : Run task ts (.rejected (.operandMissing after) k)) :
    after ∈ openers := by
  cases h.arises with
  | @join c => cases c <;> simp [openers, Connective.word]
  | relate ht =>
    have hword := (relation?_eq_some_iff.mp ht).2.1
    simp [openers, hword]
  | parens | list | comma => simp [openers]

/-! ### Failed readings -/

/-- What has been read when a reading fails. -/
theorem preceded_of_sentence {fault : Fault} (h : sentence ts = .error (fault, k)) :
    ∃ front, ts = front ++ k ∧ Precedes front fault := by
  rcases sentence_eq_error_iff.mp h with ⟨rfl, rfl, rfl⟩ | run | ⟨rfl, -, e, run⟩
  · exact ⟨[], rfl, trivial⟩
  · obtain ⟨front, hts, hfault, -⟩ := run.preceded
    exact ⟨front, hts, hfault⟩
  · obtain ⟨front, hts, he⟩ := run.sound
    exact ⟨front, hts, Derives.not_operandDue he⟩

theorem mem_openers_of_sentence {after : String} (h : sentence ts = .error (.operandMissing after, k)) :
    after ∈ openers := by
  rcases sentence_eq_error_iff.mp h with ⟨-, hfault, -⟩ | run | ⟨hfault, -⟩
  · cases hfault
  · exact run.mem_openers
  · cases hfault

/-- No viable tokens hold an invalid one. -/
theorem Viable.kind_ne_invalid (h : Viable ts) (ht : t ∈ ts) : t.kind ≠ .invalid := by
  obtain ⟨front, back, rfl⟩ := List.append_of_mem ht
  obtain ⟨k, e, hsentence⟩ := h
  rw [List.append_assoc, List.cons_append] at hsentence
  exact fun hkind => hsentence.not_excluded (.invalid hkind)

/-- Reading goes on as long as the tokens are viable, so it stops right before the first invalid token. -/
theorem exists_fault_of_invalid (hfront : Viable front) (ht : t.kind = .invalid) :
    ∃ fault, sentence (front ++ t :: k) = .error (fault, t :: k) := by
  have hts : ¬ Viable (front ++ t :: k) := fun h => h.kind_ne_invalid (by simp) ht
  have hsentence : ¬ ∃ e, Sentence (front ++ t :: k) e := fun ⟨e, he⟩ => hts ⟨[], e, by rwa [List.append_nil]⟩
  obtain ⟨ds, hds⟩ : ∃ ds, parseTokens 0 (front ++ t :: k) = .error ds := parseTokens_error_iff.mpr hsentence
  obtain ⟨fault, unread, hfault, -⟩ := parseTokens_eq_error_iff.mp hds
  obtain ⟨read, hread, hviable⟩ := exists_viable_of_sentence hfault
  refine ⟨fault, ?_⟩
  rcases List.append_eq_append_iff.mp hread with ⟨more, rfl, hmore⟩ | ⟨more, rfl, hmore⟩
  · cases more with
    | nil => rwa [show t :: k = unread from hmore] at hfault ⊢
    | cons u more =>
      obtain ⟨rfl, -⟩ := List.cons.inj hmore
      exact absurd ht (hviable.kind_ne_invalid (by simp))
  · cases more with
    | nil => rwa [show unread = t :: k from hmore] at hfault
    | cons u more =>
      rw [hread, hmore, List.cons_append] at hfault
      have hfront' : Viable (read ++ [u] ++ more) := by rwa [List.append_assoc]
      exact absurd hfront'.of_append (not_viable_of_unread hfault)

/-- **An invalid token is unexpected just if what stands before it is viable and an operand is due there.** -/
theorem sentence_unexpected_iff (ht : t.kind = .invalid) :
    sentence (front ++ t :: k) = .error (.unexpected t, t :: k) ↔ Viable front ∧ OperandDue front := by
  have hpreceded : ∀ fault, sentence (front ++ t :: k) = .error (fault, t :: k) → Precedes front fault := by
    intro fault h
    obtain ⟨front', hfront, hfault⟩ := preceded_of_sentence h
    obtain rfl := List.append_cancel_right hfront
    exact hfault
  constructor
  · intro h
    obtain ⟨front', hfront, hviable⟩ := exists_viable_of_sentence h
    obtain rfl := List.append_cancel_right hfront
    exact ⟨hviable, hpreceded _ h⟩
  · rintro ⟨hviable, hdue⟩
    obtain ⟨fault, hfault⟩ := exists_fault_of_invalid (k := k) hviable ht
    rcases fault_cases_of_sentence hfault with ⟨hnil, -⟩ | ⟨u, k', hunread, rfl | rfl | ⟨kind, rfl⟩⟩
    · cases hnil
    · exact absurd hdue (hpreceded _ hfault)
    · obtain ⟨rfl, rfl⟩ := List.cons.inj hunread
      exact hfault
    · exact absurd hdue (hpreceded _ hfault)

end FilterLang.Grammar
