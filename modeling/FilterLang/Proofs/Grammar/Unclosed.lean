import FilterLang.Proofs.Grammar.Due

/-!
# Where something is left open

If the tokens end too early, something has been begun that is not at its end: an operand is due behind the last token,
or parentheses or a list are still open behind a whole expression (`Run.pending`). In the second case, and only then, the
tokens end early (`sentence_endedEarly_iff`). They are no sentence then, because what the grammar derives closes all that
it opens, and no more (`Derives.depthFrom_eq`).

The token that is needed where another stands is a closing parenthesis or a comma. So no message asks for a closing
bracket (`message_ne_expected_bracket`).
-/

namespace FilterLang.Grammar

open Parse

variable {ts us k : List Token} {a t : Token} {fault : Fault}

/-- Parentheses or a list, from the opening token on, up to where a closing token or a separator is needed. -/
inductive Unclosed : List Token → Prop where
  /-- An opening parenthesis and a whole expression. -/
  | parens {a : Token} {ts : List Token} {e : Expr} :
      a.kind = .parenOpen → Derives (.chain .or) ts e → Unclosed (a :: ts)
  /-- An opening bracket and whole elements. -/
  | list {a : Token} {ts : List Token} {e : Expr} :
      a.kind = .bracketOpen → Derives .elements ts e → Unclosed (a :: ts)

/-- What is left open has an operand at its end, so that no other is due. -/
theorem Unclosed.not_operandDue (h : Unclosed us) (hus : us <:+ ts) : ¬ OperandDue ts := by
  obtain ⟨front, rfl⟩ := hus
  cases h with
  | parens _ h | list _ h =>
    rw [List.append_cons]
    exact not_operandDue_append h.not_operandDue

/-! ### What a failed run has begun -/

/-- These tokens have been begun and not ended, and so there is this fault. -/
def Pending (us : List Token) : Fault → Prop
  | .operandMissing _ => ∃ a, us = [a] ∧ Awaits a
  | .endedEarly => Unclosed us
  | _ => False

theorem Awaits.pending {after : String} (h : Awaits a) : Pending [a] (.operandMissing after) := ⟨a, rfl, h⟩

theorem Unclosed.pending (h : Unclosed us) : Pending us .endedEarly := h

/-- Something is pending at the end of the tokens. -/
def EndsPending (ts : List Token) (fault : Fault) : Prop := ∃ us, us <:+ ts ∧ Pending us fault

theorem Pending.endsPending (h : Pending us fault) (hus : us <:+ ts) : EndsPending ts fault := ⟨us, hus, h⟩

theorem EndsPending.of_suffix (h : EndsPending k fault) (hk : k <:+ ts) : EndsPending ts fault := by
  obtain ⟨us, hus, hpending⟩ := h
  exact ⟨us, hus.trans hk, hpending⟩

theorem EndsPending.cons (h : EndsPending k fault) (t : Token) : EndsPending (t :: k) fault :=
  h.of_suffix (List.suffix_cons t k)

theorem operand_ne_elements (c : Connective) : Task.read (Grammar.operand c) ≠ .read .elements := by
  cases c <;> simp [Grammar.operand]

/-- **What is pending when the tokens end.** The elements of a list are read behind the opening bracket, so it may be
they that are pending, up to their last. -/
theorem Run.pending {task : Task} (h : Run task ts (.rejected fault [])) :
    EndsPending ts fault ∨ task = .read .elements ∧ fault = .endedEarly ∧ ∃ es, Derives .elements ts (.list es) := by
  generalize hv : Verdict.rejected fault [] = v at h
  -- a run that fails in a part of it has this part at the end of its tokens, and what is pending there is pending here
  induction h with
  | operandFails _ ih =>
    cases hv
    exact .inl ((ih rfl).resolve_right fun h => operand_ne_elements _ h.1)
  | firstFails _ ih | elementFails _ _ ih =>
    cases hv
    exact .inl ((ih rfl).resolve_right (by simp))
  | operand run _ _ ih =>
    have hpending := (ih hv).resolve_right (by simp)
    exact .inl (hpending.of_suffix run.suffix)
  | joinMissing ht =>
    cases hv
    exact .inl ((awaits_of_isOperator ht).pending.endsPending List.suffix_rfl)
  | joinFails _ _ ih =>
    cases hv
    exact .inl (((ih rfl).resolve_right fun h => operand_ne_elements _ h.1).cons _)
  | join _ run _ _ ih =>
    have hpending := (ih hv).resolve_right (by simp)
    exact .inl ((hpending.of_suffix run.suffix).cons _)
  | @relateMissing ts t family left run ht =>
    cases hv
    have hawaits : Awaits t := awaits_of_relates (relation?_eq_some_iff.mp ht)
    exact .inl (hawaits.pending.endsPending run.suffix)
  | relateFails run _ _ _ ih =>
    cases hv
    have hpending := (ih rfl).resolve_right (by simp)
    exact .inl ((hpending.cons _).of_suffix run.suffix)
  | @parensMissing a ha | @listMissing a ha =>
    cases hv
    have hawaits : Awaits a := by simp [Awaits, ha]
    exact .inl (hawaits.pending.endsPending List.suffix_rfl)
  | parensFails _ _ ih =>
    cases hv
    exact .inl (((ih rfl).resolve_right (by simp)).cons _)
  | @parensEnds a ts e ha run =>
    cases hv
    obtain ⟨front, rfl, he⟩ := run.sound
    rw [List.append_nil]
    exact .inl ((Unclosed.parens ha he).pending.endsPending List.suffix_rfl)
  | listFails ha _ ih =>
    cases hv
    rcases ih rfl with hpending | ⟨-, rfl, es, hes⟩
    · exact .inl (hpending.cons _)
    · exact .inl ((Unclosed.list ha hes).pending.endsPending List.suffix_rfl)
  | elementEnds _ run =>
    cases hv
    obtain ⟨front, hts, he⟩ := run.sound
    rw [List.append_nil] at hts
    rw [hts]
    exact .inr ⟨rfl, rfl, _, .last he⟩
  | @elementMissing t s ts e _ run hs =>
    cases hv
    have hawaits : Awaits s := by simp [Awaits, hs]
    exact .inl (hawaits.pending.endsPending run.suffix)
  | moreFails _ run hs _ _ ih =>
    cases hv
    rcases ih rfl with hpending | ⟨-, hfault, es, hes⟩
    · exact .inl ((hpending.cons _).of_suffix run.suffix)
    · obtain ⟨front, hts, he⟩ := run.sound
      rw [hts]
      exact .inr ⟨rfl, hfault, _, .more he hs hes⟩
  | _ => cases hv

/-! ### Opening and closing -/

/-- How many are open behind a token, if so many are open before it. None can be closed if none is open. -/
def depthAfter (depth : Nat) (t : Token) : Option Nat :=
  if t.kind = .parenOpen ∨ t.kind = .bracketOpen then some (depth + 1)
  else if t.kind = .parenClose ∨ t.kind = .bracketClose then
    match depth with
    | 0 => none
    | depth + 1 => some depth
  else some depth

/-- How many parentheses and brackets are open behind the tokens, if so many are open before them. -/
def depthFrom (depth : Nat) (ts : List Token) : Option Nat := ts.foldlM depthAfter depth

@[simp] theorem depthFrom_nil (depth : Nat) : depthFrom depth [] = some depth := rfl

@[simp] theorem depthFrom_cons (depth : Nat) (t : Token) (ts : List Token) :
    depthFrom depth (t :: ts) = (depthAfter depth t).bind (depthFrom · ts) := rfl

@[simp] theorem depthFrom_append (depth : Nat) (ts us : List Token) :
    depthFrom depth (ts ++ us) = (depthFrom depth ts).bind (depthFrom · us) := List.foldlM_append ..

theorem depthAfter_open (h : a.kind = .parenOpen ∨ a.kind = .bracketOpen) (depth : Nat) :
    depthAfter depth a = some (depth + 1) := if_pos h

theorem depthAfter_close (h : a.kind = .parenClose ∨ a.kind = .bracketClose) (depth : Nat) :
    depthAfter (depth + 1) a = some depth := by
  rcases h with h | h <;> simp [depthAfter, h]

/-- What the grammar derives closes all that it opens, and no more. -/
theorem Derives.depthFrom_eq {rule : Rule} {e : Expr} (h : Derives rule ts e) (depth : Nat) :
    depthFrom depth ts = some depth := by
  induction h generalizing depth with
  | operand _ ih => exact ih depth
  | primary _ ih => exact ih depth
  | last _ ih => exact ih depth
  | join _ ht _ ihl ihr => simp [ihl, ihr, depthAfter, (isOperator_iff.mp ht).1]
  | relate _ ht _ ihl ihr => simp [ihl, ihr, depthAfter, ht.1]
  | more _ hs _ ih ih' => simp [ih, ih', depthAfter, hs]
  | leaf h => cases h <;> rfl
  | parens ha _ hz ih => simp [ih, depthAfter_open (.inl ha), depthAfter_close (.inl hz)]
  | empty ha hz => simp [depthAfter_open (.inr ha), depthAfter_close (.inr hz)]
  | list ha _ hz ih => simp [ih, depthAfter_open (.inr ha), depthAfter_close (.inr hz)]
  | @trailing a s z ts e ha _ hs hz ih =>
    have hcomma : ∀ n, depthAfter n s = some n := by simp [depthAfter, hs]
    simp [ih, hcomma, depthAfter_open (.inr ha), depthAfter_close (.inr hz)]

theorem Unclosed.depthFrom_eq (h : Unclosed us) (depth : Nat) : depthFrom depth us = some (depth + 1) := by
  cases h with
  | parens ha h => simp [depthAfter_open (.inl ha), h.depthFrom_eq]
  | list ha h => simp [depthAfter_open (.inr ha), h.depthFrom_eq]

/-- Where something is left open there is no sentence. -/
theorem Unclosed.not_sentence (h : Unclosed us) (hus : us <:+ ts) (e : Expr) : ¬ Sentence ts e := by
  obtain ⟨front, rfl⟩ := hus
  intro hsentence
  have hdepth := hsentence.depthFrom_eq 0
  rw [depthFrom_append, Option.bind_eq_some_iff] at hdepth
  obtain ⟨depth, -, hclosed⟩ := hdepth
  rw [h.depthFrom_eq] at hclosed
  cases hclosed

/-! ### Failed readings -/

/-- Viable tokens are read up to their end. -/
theorem Viable.unread_eq_nil (hts : Viable ts) (h : sentence ts = .error (fault, k)) : k = [] := by
  cases k with
  | nil => rfl
  | cons t k =>
    obtain ⟨front, rfl⟩ := exists_front_of_sentence h
    rw [List.append_cons] at hts
    exact absurd hts.of_append (not_viable_of_unread h)

/-- **The tokens end early just if they could go on and something is left open behind a whole expression.** -/
theorem sentence_endedEarly_iff :
    sentence ts = .error (.endedEarly, k) ↔ k = [] ∧ Viable ts ∧ ∃ us, us <:+ ts ∧ Unclosed us := by
  constructor
  · intro h
    obtain rfl : k = [] := (isAtEnd_iff_of_sentence h).mp rfl
    obtain ⟨front, hts, hviable⟩ := exists_viable_of_sentence h
    rw [List.append_nil] at hts
    rcases sentence_eq_error_iff.mp h with ⟨-, hfault, -⟩ | run | ⟨hfault, -⟩
    · cases hfault
    · exact ⟨rfl, hts ▸ hviable, run.pending.resolve_right (by simp)⟩
    · cases hfault
  · rintro ⟨rfl, hviable, us, hus, hunclosed⟩
    obtain ⟨ds, hds⟩ : ∃ ds, parseTokens 0 ts = .error ds :=
      parseTokens_error_iff.mpr fun ⟨e, he⟩ => hunclosed.not_sentence hus e he
    obtain ⟨fault, k, hfault, -⟩ := parseTokens_eq_error_iff.mp hds
    obtain rfl := hviable.unread_eq_nil hfault
    -- no other fault at the end of the tokens goes with something left open
    rcases sentence_eq_error_iff.mp hfault with ⟨rfl, -, -⟩ | run | ⟨-, hk, -⟩
    · obtain rfl := List.suffix_nil.mp hus
      cases hunclosed
    · obtain ⟨vs, hvs, hpending⟩ := run.pending.resolve_right (by simp)
      cases fault with
      | endedEarly => exact hfault
      | operandMissing after =>
        obtain ⟨a, rfl, ha⟩ := hpending
        obtain ⟨front, rfl⟩ := hvs
        exact absurd (operandDue_concat_iff.mpr ha) (hunclosed.not_operandDue hus)
      | _ => cases hpending
    · exact absurd rfl hk

/-- The token that is needed instead of another closes parentheses or separates elements. -/
theorem mismatch_kind_of_sentence {kind : Token.Kind} (h : sentence ts = .error (.mismatch kind t, k)) :
    kind = .parenClose ∨ kind = .comma := by
  rcases sentence_eq_error_iff.mp h with ⟨-, hfault, -⟩ | run | ⟨hfault, -⟩
  · cases hfault
  · cases run.arises with
    | unclosed => exact .inl rfl
    | unseparated => exact .inr rfl
  · cases hfault

/-! ### Messages -/

/-- Only an early end has its message. -/
theorem message_eq_endedEarly_iff : fault.message = "Unexpected end of expression" ↔ fault = .endedEarly := by
  constructor
  · intro h
    have hend : fault.isAtEnd = true := (saysEnd_message_iff fault).mp (.inr (.inr h))
    replace h := congrArg String.toList h
    cases fault with
    | endedEarly => rfl
    | empty | operandMissing =>
      unfold Fault.message at h
      simp at h
    | _ => cases hend
  · rintro rfl
    unfold Fault.message
    rfl

/-- No closing bracket is ever asked for. -/
theorem message_ne_expected_bracket (h : sentence ts = .error (fault, k)) (found : String) :
    fault.message ≠ "Expected ] but found " ++ found := by
  intro hmessage
  replace hmessage := congrArg String.toList hmessage
  cases fault with
  | empty | operandMissing | endedEarly | leftover =>
    unfold Fault.message at hmessage
    simp at hmessage
  | mismatch kind t =>
    unfold Fault.message at hmessage
    rcases mismatch_kind_of_sentence h with rfl | rfl <;> simp [Token.Kind.label] at hmessage
  | unexpected t =>
    obtain ⟨more, ht⟩ := message_unexpected t
    rw [ht] at hmessage
    simp at hmessage

/-- What the diagnostic of a failed reading says about closing. -/
theorem exists_message_of_parseTokens {start : Nat} {ds : Diagnostics} (h : parseTokens start ts = .error ds) :
    ∃ d, ds = .singleton d ∧ (∀ found, d.message ≠ "Expected ] but found " ++ found) ∧
      (d.message = "Unexpected end of expression" ↔ Viable ts ∧ ∃ us, us <:+ ts ∧ Unclosed us) := by
  obtain ⟨fault, k, hsentence, rfl⟩ := parseTokens_eq_error_iff.mp h
  refine ⟨_, rfl, message_ne_expected_bracket hsentence, message_eq_endedEarly_iff.trans ⟨?_, fun hopen => ?_⟩⟩
  · rintro rfl
    exact (sentence_endedEarly_iff.mp hsentence).2
  · have hearly : sentence ts = .error (.endedEarly, []) := sentence_endedEarly_iff.mpr ⟨rfl, hopen⟩
    rw [hsentence] at hearly
    cases hearly
    rfl

end FilterLang.Grammar
