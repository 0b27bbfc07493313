import FilterLang.Proofs.Grammar.Exclusion
import FilterLang.Proofs.Grammar.Wording

/-!
# Where a token list goes wrong

A token list is viable if more tokens could make a sentence of it. A failed reading says where this comes to an end
(`parseTokens_error_viable`): what it has read is viable (`Run.completable`), and if it blames a token, nothing that
begins with what was read and that token is a sentence (`not_viable_of_unread`).

What has been read is completed task by task: an open parenthesis or bracket is closed, and a missing operand is put in.
That no continuation helps needs no look at continuations: reading would fail on all of them in the same way, since it
looks one token ahead only.
-/

namespace FilterLang.Grammar

open Parse

/-- The tokens are the front of a sentence. -/
def Viable (ts : List Token) : Prop := ∃ k e, Sentence (ts ++ k) e

/-- What is in front of viable tokens is viable. -/
theorem Viable.of_append {ts k : List Token} (h : Viable (ts ++ k)) : Viable ts := by
  obtain ⟨k', e, h⟩ := h
  exact ⟨k ++ k', e, by rwa [← List.append_assoc]⟩

/-! ### Completing what has been read -/

/-- An operand, put in where one is missing. -/
def filler : Token := ⟨.null, 0, "null"⟩

theorem derives_filler : Derives .primary [filler] .null := .leaf .null

/-- The tokens of a closing parenthesis and a closing bracket. -/
def closer (kind : Token.Kind) : Token := ⟨kind, 0, kind.label⟩

/-- More tokens make what has been read into something that the task reads as a whole. -/
def Completable : Task → List Token → Prop
  | .read rule, front => ∃ k e, Reads rule (front ++ k) e
  | .further c left, front => ∃ k e, ∀ ls, Derives (.chain c) ls left → Derives (.chain c) (ls ++ (front ++ k)) e

theorem completable_operand_iff {c : Connective} {front : List Token} :
    Completable (.read (operand c)) front ↔ ∃ k e, Derives (operand c) (front ++ k) e := by
  simp only [Completable, reads_operand_iff]

/-- What stands between the brackets of a list is the tree of a list. -/
theorem Contents.exists_list {ts : List Token} {e : Expr} (h : Contents ts e) : ∃ es, e = .list es := by
  have helements : ∀ {ts : List Token} {e : Expr}, Derives .elements ts e → ∃ es, e = .list es := by
    intro ts e h
    cases h with
    | last _ => exact ⟨_, rfl⟩
    | more _ _ _ => exact ⟨_, rfl⟩
  cases h with
  | empty => exact ⟨[], rfl⟩
  | elements h => exact helements h
  | trailing h _ => exact helements h

theorem Contents.single {ts : List Token} {e : Expr} (h : Derives (.chain .or) ts e) : Contents ts (.list [e]) :=
  .elements (.last h)

/-- **What has been read when a fault is found can be completed.** -/
theorem Run.completable {task : Task} {ts k : List Token} {fault : Fault} (h : Run task ts (.rejected fault k)) :
    ∃ front, ts = front ++ k ∧ Completable task front := by
  generalize hv : Verdict.rejected fault k = v at h
  induction h with
  | operandFails _ ih =>
    cases hv
    obtain ⟨front, rfl, hfront⟩ := ih rfl
    obtain ⟨k', e, he⟩ := completable_operand_iff.mp hfront
    exact ⟨front, rfl, k', e, .operand he⟩
  | operand run _ _ ih =>
    obtain ⟨front, rfl, hl⟩ := run.sound
    obtain ⟨front', rfl, k', e, he⟩ := ih hv
    refine ⟨front ++ front', (List.append_assoc ..).symm, k', e, ?_⟩
    have := he front (.operand (reads_operand_iff.mp hl))
    rwa [← List.append_assoc] at this
  | @joinMissing c left t ht =>
    cases hv
    exact ⟨[t], rfl, [filler], _, fun ls hl => .join hl ht (derives_filler.operand_of_primary c)⟩
  | @joinFails c left t ts k fault ht _ ih =>
    cases hv
    obtain ⟨front, rfl, hfront⟩ := ih rfl
    obtain ⟨k', right, hr⟩ := completable_operand_iff.mp hfront
    exact ⟨t :: front, rfl, k', _, fun ls hl => .join hl ht hr⟩
  | @join c left right t ts k v ht run _ _ ih =>
    obtain ⟨front, rfl, hr⟩ := run.sound
    obtain ⟨front', rfl, k', e, he⟩ := ih hv
    refine ⟨t :: (front ++ front'), by simp, k', e, fun ls hl => ?_⟩
    have := he (ls ++ t :: front) (.join hl ht (reads_operand_iff.mp hr))
    simpa using this
  | firstFails _ ih =>
    cases hv
    obtain ⟨front, rfl, k', e, he⟩ := ih rfl
    exact ⟨front, rfl, k', e, .primary he⟩
  | @relateMissing ts t family left run ht =>
    cases hv
    obtain ⟨front, rfl, hl⟩ := run.sound
    refine ⟨front ++ [t], (List.append_nil _).symm, [filler], .binary family t.value left .null, ?_⟩
    rw [List.append_assoc]
    exact .relate hl (relation?_eq_some_iff.mp ht) derives_filler
  | @relateFails ts us k t family left fault run ht _ _ ih =>
    cases hv
    obtain ⟨front, rfl, hl⟩ := run.sound
    obtain ⟨front', rfl, k', right, hr⟩ := ih rfl
    refine ⟨front ++ t :: front', by simp, k', .binary family t.value left right, ?_⟩
    rw [List.append_assoc]
    exact .relate hl (relation?_eq_some_iff.mp ht) hr
  | unexpected =>
    cases hv
    exact ⟨[], rfl, [filler], .null, derives_filler⟩
  | @parensMissing a ha =>
    cases hv
    exact ⟨[a], rfl, [filler, closer .parenClose], .null, .parens ha (derives_filler.chain_of_primary .or) rfl⟩
  | @parensFails a ts k fault ha _ ih =>
    cases hv
    obtain ⟨front, rfl, k', e, he⟩ := ih rfl
    refine ⟨a :: front, rfl, k' ++ [closer .parenClose], e, ?_⟩
    have := Derives.parens (z := closer .parenClose) ha he rfl
    rwa [List.append_assoc] at this
  | @parensEnds a ts e ha run =>
    cases hv
    obtain ⟨front, rfl, he⟩ := run.sound
    rw [List.append_nil]
    exact ⟨a :: front, (List.append_nil _).symm, [closer .parenClose], e, .parens ha he rfl⟩
  | @parensMismatch a z ts k e ha run hz =>
    cases hv
    obtain ⟨front, rfl, he⟩ := run.sound
    exact ⟨a :: front, rfl, [closer .parenClose], e, .parens ha he rfl⟩
  | @listMissing a ha =>
    cases hv
    exact ⟨[a], rfl, [closer .bracketClose], .list [], .empty ha rfl⟩
  | @listFails a ts k fault ha _ ih =>
    cases hv
    obtain ⟨front, rfl, k', e, he⟩ := ih rfl
    refine ⟨a :: front, rfl, k' ++ [closer .bracketClose], e, ?_⟩
    have := he.derives (z := closer .bracketClose) ha rfl
    rwa [List.append_assoc] at this
  | elementFails _ _ ih =>
    cases hv
    obtain ⟨front, hts, k', e, he⟩ := ih rfl
    exact ⟨front, hts, k', .list [e], .single he⟩
  | elementEnds _ run =>
    cases hv
    obtain ⟨front, hts, he⟩ := run.sound
    exact ⟨front, hts, [], .list [_], by rw [List.append_nil]; exact .single he⟩
  | elementMismatch _ run _ _ =>
    cases hv
    obtain ⟨front, hts, he⟩ := run.sound
    exact ⟨front, hts, [], .list [_], by rw [List.append_nil]; exact .single he⟩
  | @elementMissing t s ts e _ run hs =>
    cases hv
    obtain ⟨front, hts, he⟩ := run.sound
    refine ⟨front ++ [s], by rw [hts, List.append_nil], [], .list [e], ?_⟩
    rw [List.append_nil]
    exact .trailing (.last he) hs
  | @moreFails t s ts us k e fault _ run hs _ _ ih =>
    cases hv
    obtain ⟨front, hts, he⟩ := run.sound
    obtain ⟨front', rfl, k', l, hl⟩ := ih rfl
    obtain ⟨es, rfl⟩ := hl.exists_list
    refine ⟨front ++ s :: front', by simp [hts], k', .list (e :: es), ?_⟩
    rw [List.append_assoc]
    exact .more he hs hl
  | _ => cases hv

/-! ### Sentences -/

/-- What a failed reading has read is viable. -/
theorem exists_viable_of_sentence {ts k : List Token} {fault : Fault} (h : sentence ts = .error (fault, k)) :
    ∃ front, ts = front ++ k ∧ Viable front := by
  rcases sentence_eq_error_iff.mp h with ⟨rfl, -, rfl⟩ | run | ⟨-, -, e, run⟩
  · exact ⟨[], rfl, [filler], .null, derives_filler.chain_of_primary .or⟩
  · exact run.completable
  · obtain ⟨front, rfl, he⟩ := run.sound
    exact ⟨front, rfl, [], e, by rwa [List.append_nil]⟩

/-- What a failed reading has read is in front of no sentence if the token at hand comes next: the reading would have
failed on that sentence in the same way. -/
theorem not_viable_of_unread {front k : List Token} {t : Token} {fault : Fault}
    (h : sentence (front ++ t :: k) = .error (fault, t :: k)) : ¬ Viable (front ++ [t]) := by
  rintro ⟨w, e, hsentence⟩
  rw [List.append_assoc, List.singleton_append] at hsentence
  have hread : sentence (front ++ t :: w) = .ok e := sentence_eq_ok_iff.mpr hsentence
  rw [sentence_lookahead h w] at hread
  cases hread

/-! ### Diagnostics -/

/-- Where viability ends, every longer front has lost it. -/
theorem viable_take_iff {front k : List Token} {t : Token} (hfront : Viable front) (ht : ¬ Viable (front ++ [t]))
    (j : Nat) : Viable ((front ++ t :: k).take j) ↔ j ≤ front.length := by
  constructor
  · intro h
    refine Nat.le_of_not_lt fun hj => ?_
    have hlength : (front ++ [t]).length ≤ j := by
      rw [List.length_append, List.length_singleton]
      exact hj
    have hlonger : (front ++ t :: k).take j = front ++ [t] ++ k.take (j - (front ++ [t]).length) := by
      rw [List.append_cons, List.take_append, List.take_of_length_le hlength]
    rw [hlonger] at h
    exact ht h.of_append
  · intro hj
    rw [List.take_append_of_le_length hj]
    rw [← List.take_append_drop j front] at hfront
    exact hfront.of_append

/-- **A failed reading says where the token list goes wrong.** There is one diagnostic. If it is about the end of the
tokens, they are viable but no sentence, and it points at the last of them, or at the start of the input if there is
none. Otherwise it is about the token that it points at, and this is the first that is in no sentence behind the tokens
before it: the viable fronts are those that end before it. -/
theorem parseTokens_error_viable (start : Nat) (ts : List Token) (ds : Diagnostics)
    (h : parseTokens start ts = .error ds) :
    ∃ d, ds = .singleton d ∧
      (SaysEnd d.message → Viable ts ∧ (¬ ∃ e, Sentence ts e) ∧
        d.token = ts.getLast?.getD (Token.startOfInput start)) ∧
      (¬ SaysEnd d.message → SaysToken d.token d.message ∧
        ∃ k : Nat, ts[k]? = some d.token ∧ ∀ j, Viable (ts.take j) ↔ j ≤ k) := by
  obtain ⟨fault, k, hsentence, rfl⟩ := parseTokens_eq_error_iff.mp h
  obtain ⟨front, rfl, hfront⟩ := exists_viable_of_sentence hsentence
  refine ⟨_, rfl, fun hend => ?_, fun hend => ?_⟩
  · have hk : k = [] := (isAtEnd_iff_of_sentence hsentence).mp ((saysEnd_message_iff fault).mp hend)
    subst hk
    refine ⟨by rwa [List.append_nil], parseTokens_error_iff.mp ⟨_, h⟩, rfl⟩
  · have hk : k ≠ [] := fun hk =>
      hend ((saysEnd_message_iff fault).mpr ((isAtEnd_iff_of_sentence hsentence).mpr hk))
    obtain ⟨t, k, rfl⟩ := List.exists_cons_of_ne_nil hk
    refine ⟨saysToken_of_sentence hsentence, front.length, by simp [blamed], ?_⟩
    exact viable_take_iff hfront (not_viable_of_unread hsentence)

/-- `[1, (2] 3` goes wrong at the bracket, which would have to close the parenthesis. -/
theorem parseTokens_error_viable_bracket :
    let ts : List Token := [⟨.bracketOpen, 0, "["⟩, ⟨.integer, 1, "1"⟩, ⟨.comma, 2, ","⟩, ⟨.parenOpen, 4, "("⟩,
      ⟨.integer, 5, "2"⟩, ⟨.bracketClose, 6, "]"⟩, ⟨.integer, 8, "3"⟩]
    let d : Diagnostic := ⟨⟨.bracketClose, 6, "]"⟩, "Expected ) but found ]"⟩
    parseTokens 0 ts = .error (.singleton d) ∧ ¬ SaysEnd d.message ∧ SaysToken d.token d.message ∧
      ∃ k : Nat, ts[k]? = some d.token ∧ ∀ j, Viable (ts.take j) ↔ j ≤ k := by
  intro ts d
  have hsentence : sentence ts = .error (.mismatch .parenClose d.token, [d.token, ⟨.integer, 8, "3"⟩]) := by cbv
  have hmessage : (Fault.mismatch .parenClose d.token).message = d.message := by decide +kernel
  have hparse : parseTokens 0 ts = .error (.singleton d) :=
    parseTokens_eq_error_iff.mpr ⟨_, _, hsentence, by rw [hmessage]; rfl⟩
  have hend : ¬ SaysEnd d.message := by
    rw [← hmessage]
    exact not_saysEnd_mismatch .parenClose d.token
  obtain ⟨d', hd, -, htoken⟩ := parseTokens_error_viable 0 ts (.singleton d) hparse
  obtain rfl : d = d' := congrArg Diagnostics.first hd
  exact ⟨hparse, hend, htoken hend⟩

end FilterLang.Grammar
