import FilterLang.Proofs.Grammar.Lookahead

/-!
# What a message says

A message is about the end of the tokens or about a token. It is about their end just if the fault is found there
(`saysEnd_message_iff`), and otherwise it names the token at hand (`saysToken_of_sentence`).
-/

namespace FilterLang.Grammar

open Parse

/-- The message is about the end of the tokens. -/
def SaysEnd (message : String) : Prop :=
  message = "Expected expression" ∨ (∃ after, message = "Expected expression after '" ++ after ++ "'") ∨
    message = "Unexpected end of expression"

/-- The message is about this token. -/
def SaysToken (t : Token) (message : String) : Prop :=
  message = "Expected end of expression" ∨
    (∃ kind : Token.Kind, message = "Expected " ++ kind.label ++ " but found " ++ t.display) ∨
    ∃ more, message = "Unexpected token '" ++ t.display ++ "'" ++ more

/-- No label begins as the word `expression` does. -/
theorem exists_label (kind : Token.Kind) : ∃ c cs, kind.label = String.ofList (c :: cs) ∧ c ≠ 'e' := by
  cases kind <;> exact ⟨_, _, rfl, by decide⟩

theorem message_unexpected (t : Token) :
    ∃ more, (Fault.unexpected t).message = "Unexpected token '" ++ t.display ++ "'" ++ more := by
  unfold Fault.message
  dsimp only
  split
  · exact ⟨": " ++ Fault.detail t, String.append_assoc⟩
  · exact ⟨"", String.append_empty.symm⟩

theorem not_saysEnd_leftover : ¬ SaysEnd Fault.leftover.message := by
  have hmessage : Fault.leftover.message.toList = "Expected end of expression".toList := rfl
  intro h
  rcases h with h | ⟨after, h⟩ | h <;> rw [h] at hmessage <;> simp at hmessage

theorem not_saysEnd_mismatch (kind : Token.Kind) (t : Token) : ¬ SaysEnd (Fault.mismatch kind t).message := by
  obtain ⟨c, cs, hlabel, hc⟩ := exists_label kind
  have hmessage : (Fault.mismatch kind t).message =
      "Expected " ++ String.ofList (c :: cs) ++ " but found " ++ t.display := by
    rw [← hlabel]
    rfl
  replace hmessage := congrArg String.toList hmessage
  intro h
  rcases h with h | ⟨after, h⟩ | h <;> rw [h] at hmessage <;> simp [hc.symm] at hmessage

theorem not_saysEnd_unexpected (t : Token) : ¬ SaysEnd (Fault.unexpected t).message := by
  obtain ⟨more, hmessage⟩ := message_unexpected t
  replace hmessage := congrArg String.toList hmessage
  intro h
  rcases h with h | ⟨after, h⟩ | h <;> rw [h] at hmessage <;> simp at hmessage

/-- The message of a fault is about the end of the tokens just if the fault is. -/
theorem saysEnd_message_iff (fault : Fault) : SaysEnd fault.message ↔ fault.isAtEnd = true := by
  cases fault with
  | empty => exact iff_of_true (.inl rfl) rfl
  | operandMissing after => exact iff_of_true (.inr (.inl ⟨after, rfl⟩)) rfl
  | endedEarly => exact iff_of_true (.inr (.inr rfl)) rfl
  | leftover => exact iff_of_false not_saysEnd_leftover Bool.false_ne_true
  | mismatch kind t => exact iff_of_false (not_saysEnd_mismatch kind t) Bool.false_ne_true
  | unexpected t => exact iff_of_false (not_saysEnd_unexpected t) Bool.false_ne_true

/-- The message of a failed reading that has not come to the end of the tokens is about the token at hand. -/
theorem saysToken_of_sentence {ts k : List Token} {t : Token} {fault : Fault}
    (h : sentence ts = .error (fault, t :: k)) : SaysToken t fault.message := by
  rcases fault_cases_of_sentence h with ⟨hk, -⟩ | ⟨t', k', hk, hfault⟩
  · cases hk
  · obtain ⟨rfl, -⟩ := List.cons.inj hk
    rcases hfault with rfl | rfl | ⟨kind, rfl⟩
    · exact .inl rfl
    · exact .inr (.inr (message_unexpected t))
    · exact .inr (.inl ⟨kind, rfl⟩)

end FilterLang.Grammar
