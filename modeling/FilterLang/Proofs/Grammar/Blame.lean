import FilterLang.Proofs.Grammar.Wording

/-!
# The tokens behind the blamed one

A reading that blames a token has not looked at the tokens behind it (`parseTokens_error_lookahead`): in front of any
other tokens it would have failed at the same place with the same diagnostic. The place is told by its index and not by
the token, since an equal token may stand at other places, where nothing is wrong.
-/

namespace FilterLang.Grammar

open Parse

/-- The token with index `k` is at hand when the reading of these tokens fails. -/
def FailsAt (ts : List Token) (k : Nat) : Prop :=
  k < ts.length ∧ ∃ fault, sentence ts = .error (fault, ts.drop k)

/-- The token at hand is found from the end of the tokens, by counting those that are unread. -/
theorem failsAt_iff {ts unread : List Token} {fault : Fault} (h : sentence ts = .error (fault, unread)) (k : Nat) :
    FailsAt ts k ↔ k < ts.length ∧ k + unread.length = ts.length := by
  constructor
  · rintro ⟨hk, fault', h'⟩
    rw [h, Except.error.injEq, Prod.mk.injEq] at h'
    have hlength := congrArg List.length h'.2
    rw [List.length_drop] at hlength
    exact ⟨hk, by omega⟩
  · rintro ⟨hk, hlength⟩
    obtain ⟨front, rfl⟩ := exists_front_of_sentence h
    obtain rfl : k = front.length := by
      rw [List.length_append] at hlength
      omega
    refine ⟨hk, fault, ?_⟩
    rw [List.drop_left]
    exact h

/-- The token behind what has been read is the one at hand. -/
theorem failsAt_append_iff {front k : List Token} {t : Token} {fault : Fault}
    (h : sentence (front ++ t :: k) = .error (fault, t :: k)) (j : Nat) :
    FailsAt (front ++ t :: k) j ↔ j = front.length := by
  rw [failsAt_iff h, List.length_append, List.length_cons]
  omega

/-- Tokens that agree up to the token `t` differ in what stands behind it only. -/
theorem eq_append_of_take_eq {front k ts : List Token} {t : Token}
    (h : ts.take (front.length + 1) = (front ++ t :: k).take (front.length + 1)) :
    ts = front ++ t :: ts.drop (front.length + 1) := by
  have htake : ts.take (front.length + 1) = front ++ [t] := by
    rw [h, List.take_length_add_append, List.take_succ_cons, List.take_zero]
  calc ts = ts.take (front.length + 1) ++ ts.drop (front.length + 1) := (List.take_append_drop ..).symm
    _ = front ++ t :: ts.drop (front.length + 1) := by rw [htake, List.append_assoc, List.singleton_append]

/-- **Nothing behind the blamed token is looked at**: if a diagnostic is not about the end of the tokens, it is the only
one and points at the token at hand, and all token lists that agree up to this token fail there with this diagnostic. -/
theorem parseTokens_error_lookahead {start : Nat} {ts : List Token} {ds : Diagnostics} {d : Diagnostic}
    (h : parseTokens start ts = .error ds) (hd : d ∈ ds.toList) (hend : ¬ SaysEnd d.message) :
    ds = .singleton d ∧ ∃ k, ts[k]? = some d.token ∧ (∀ j, FailsAt ts j ↔ j = k) ∧
      ∀ ts' : List Token, ts'.take (k + 1) = ts.take (k + 1) →
        parseTokens start ts' = .error (.singleton d) ∧ ∀ j, FailsAt ts' j ↔ j = k := by
  obtain ⟨fault, unread, hsentence, rfl⟩ := parseTokens_eq_error_iff.mp h
  obtain rfl : d = ⟨blamed start ts unread, fault.message⟩ := List.mem_singleton.mp hd
  have hunread : unread ≠ [] := fun hunread =>
    hend ((saysEnd_message_iff fault).mpr ((isAtEnd_iff_of_sentence hsentence).mpr hunread))
  obtain ⟨t, k, rfl⟩ := List.exists_cons_of_ne_nil hunread
  obtain ⟨front, rfl⟩ := exists_front_of_sentence hsentence
  refine ⟨rfl, front.length, by simp [blamed], failsAt_append_iff hsentence, fun ts' htake => ?_⟩
  rw [eq_append_of_take_eq htake]
  have hsentence' := sentence_lookahead hsentence (ts'.drop (front.length + 1))
  exact ⟨parseTokens_eq_error_iff.mpr ⟨fault, _, hsentence', rfl⟩, failsAt_append_iff hsentence'⟩

/-- `(1] 2` fails at the bracket, whatever stands in place of `2`. -/
theorem parseTokens_error_lookahead_bracket :
    let front : List Token := [⟨.parenOpen, 0, "("⟩, ⟨.integer, 1, "1"⟩]
    let d : Diagnostic := ⟨⟨.bracketClose, 2, "]"⟩, "Expected ) but found ]"⟩
    parseTokens 0 (front ++ [d.token, ⟨.integer, 4, "2"⟩]) = .error (.singleton d) ∧ ¬ SaysEnd d.message ∧
      ∀ k, parseTokens 0 (front ++ d.token :: k) = .error (.singleton d) := by
  intro front d
  have hmessage : (Fault.mismatch .parenClose d.token).message = d.message := by decide +kernel
  have hparse : parseTokens 0 (front ++ [d.token, ⟨.integer, 4, "2"⟩]) = .error (.singleton d) :=
    parseTokens_eq_error_iff.mpr ⟨.mismatch .parenClose d.token, _, by cbv, by rw [hmessage]; rfl⟩
  have hend : ¬ SaysEnd d.message := by
    rw [← hmessage]
    exact not_saysEnd_mismatch .parenClose d.token
  obtain ⟨-, k, -, hfails, hsame⟩ := parseTokens_error_lookahead hparse (List.mem_singleton_self d) hend
  have hk : 2 = k := (hfails 2).mp ⟨by decide, .mismatch .parenClose d.token, by cbv⟩
  subst hk
  exact ⟨hparse, hend, fun k => (hsame (front ++ d.token :: k) rfl).1⟩

end FilterLang.Grammar
