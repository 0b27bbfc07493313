import FilterLang.Proofs.Grammar.Lookahead
import FilterLang.Proofs.Scan.Shift

/-!
# Reading a text that stands further on

The rules look at the kind of a token, and at its value if it has a meaning. So changing the tokens in no other respect
changes the tokens in every verdict, and nothing else (`Run.map`). A shift is such a change. It leaves the messages as
they are, since no message tells a place: the one that an invalid token tells is taken off exactly.

The main statement is `parseAt_shift`: a text that stands further on is read as the same expression, or its diagnostics
say the same and point further on.
-/

namespace FilterLang

/-- The fault, with the token it is about changed. -/
def Fault.map (f : Token → Token) : Fault → Fault
  | .empty => .empty
  | .operandMissing after => .operandMissing after
  | .endedEarly => .endedEarly
  | .leftover => .leftover
  | .mismatch expected found => .mismatch expected (f found)
  | .unexpected found => .unexpected (f found)

namespace Grammar

open Parse

/-! ### Changing what the rules do not look at -/

/-- The change keeps what the rules look at. -/
def KeepsLook (f : Token → Token) : Prop := ∀ t, (f t).kind = t.kind ∧ (t.kind ≠ .invalid → (f t).value = t.value)

/-- The verdict, with its tokens changed. -/
def Verdict.map (f : Token → Token) : Verdict → Verdict
  | .accepted e k => .accepted e (k.map f)
  | .rejected fault k => .rejected (fault.map f) (k.map f)

namespace KeepsLook

variable {f : Token → Token} {t : Token}

theorem kind (hf : KeepsLook f) (t : Token) : (f t).kind = t.kind := (hf t).1

/-- What depends neither on the position of a token nor on the value of an invalid one is kept. -/
theorem apply {α : Type} (hf : KeepsLook f) (g : Token → α)
    (hposition : ∀ kind position position' value, g ⟨kind, position, value⟩ = g ⟨kind, position', value⟩)
    (hinvalid : ∀ position value value', g ⟨.invalid, position, value⟩ = g ⟨.invalid, position, value'⟩) (t : Token) :
    g (f t) = g t := by
  have hkind : (f t).kind = t.kind := (hf t).1
  calc g (f t) = g ⟨t.kind, t.position, (f t).value⟩ := by
        rw [← hkind]
        exact hposition _ _ _ _
    _ = g t := by
        by_cases h : t.kind = .invalid
        · obtain ⟨kind, position, value⟩ := t
          obtain rfl : kind = .invalid := h
          exact hinvalid _ _ _
        · rw [(hf t).2 h]

theorem isOperator (hf : KeepsLook f) (t : Token) (word : String) : (f t).isOperator word = t.isOperator word :=
  hf.apply (fun t => t.isOperator word) (fun _ _ _ _ => rfl) (fun _ _ _ => rfl) t

theorem relation? (hf : KeepsLook f) (t : Token) : (f t).relation? = t.relation? :=
  hf.apply Token.relation? (fun _ _ _ _ => rfl) (fun _ _ _ => rfl) t

theorem leaf? (hf : KeepsLook f) (t : Token) : Parse.leaf? (f t) = Parse.leaf? t :=
  hf.apply Parse.leaf? (fun _ _ _ _ => rfl) (fun _ _ _ => rfl) t

theorem display (hf : KeepsLook f) (t : Token) : (f t).display = t.display :=
  hf.apply Token.display (fun _ _ _ _ => rfl) (fun _ _ _ => rfl) t

/-- A token that relates keeps its word. -/
theorem value_of_relation? (hf : KeepsLook f) {family : Family} (h : t.relation? = some family) :
    (f t).value = t.value := by
  have hkind : t.kind = .operator := (relation?_eq_some_iff.mp h).1
  exact (hf t).2 (by simp [hkind])

end KeepsLook

/-- **Changing what the rules do not look at changes the tokens in a verdict, and nothing else.** -/
theorem Run.map {f : Token → Token} (hf : KeepsLook f) {task : Task} {ts : List Token} {v : Verdict}
    (h : Run task ts v) : Run task (ts.map f) (v.map f) := by
  induction h with
  | operandFails _ ih => exact .operandFails ih
  | operand _ _ ih ih' => exact .operand ih ih'
  | exhausted => exact .exhausted
  | stop ht => exact .stop (by rwa [hf.isOperator])
  | joinMissing ht => exact .joinMissing (by rwa [hf.isOperator])
  | joinFails ht _ ih => exact .joinFails (by rwa [hf.isOperator]) ih
  | join ht _ _ ih ih' => exact .join (by rwa [hf.isOperator]) ih ih'
  | firstFails _ ih => exact .firstFails ih
  | only _ ih => exact .only ih
  | unrelated _ ht ih => exact .unrelated ih (by rwa [hf.relation?])
  | relateMissing _ ht ih =>
    have run := Run.relateMissing ih ((hf.relation? _).trans ht)
    rwa [hf.value_of_relation? ht] at run
  | relateFails _ ht _ ih ih' => exact .relateFails ih (by rwa [hf.relation?]) ih'
  | relate _ ht _ ih ih' =>
    have run := Run.relate ih ((hf.relation? _).trans ht) ih'
    rwa [hf.value_of_relation? ht] at run
  | leaf ht => exact .leaf (by rwa [hf.leaf?])
  | unexpected ht hb hp => exact .unexpected (by rwa [hf.leaf?]) (by rwa [hf.kind]) (by rwa [hf.kind])
  | parensMissing ha => exact .parensMissing (by rwa [hf.kind])
  | parensFails ha _ ih => exact .parensFails (by rwa [hf.kind]) ih
  | parensEnds ha _ ih => exact .parensEnds (by rwa [hf.kind]) ih
  | parensMismatch ha _ hz ih => exact .parensMismatch (by rwa [hf.kind]) ih (by rwa [hf.kind])
  | parens ha _ hz ih => exact .parens (by rwa [hf.kind]) ih (by rwa [hf.kind])
  | listMissing ha => exact .listMissing (by rwa [hf.kind])
  | listFails ha _ ih => exact .listFails (by rwa [hf.kind]) ih
  | list ha _ hz ih => exact .list (by rwa [hf.kind]) ih (by rwa [hf.kind])
  | noElement hz => exact .noElement (by rwa [hf.kind])
  | elementFails ht _ ih => exact .elementFails (by rwa [hf.kind]) ih
  | elementEnds ht _ ih => exact .elementEnds (by rwa [hf.kind]) ih
  | lastElement ht _ hz ih => exact .lastElement (by rwa [hf.kind]) ih (by rwa [hf.kind])
  | elementMismatch ht _ hz hs ih =>
    exact .elementMismatch (by rwa [hf.kind]) ih (by rwa [hf.kind]) (by rwa [hf.kind])
  | elementMissing ht _ hs ih => exact .elementMissing (by rwa [hf.kind]) ih (by rwa [hf.kind])
  | moreFails ht _ hs _ ih ih' => exact .moreFails (by rwa [hf.kind]) ih (by rwa [hf.kind]) ih'
  | moreElements ht _ hs _ ih ih' => exact .moreElements (by rwa [hf.kind]) ih (by rwa [hf.kind]) ih'

/-- Changing what the rules do not look at changes the tokens that a failed reading tells of, and nothing else. -/
theorem sentence_map {f : Token → Token} (hf : KeepsLook f) (ts : List Token) :
    sentence (ts.map f) = (sentence ts).mapError fun (fault, k) => (fault.map f, k.map f) := by
  cases h : sentence ts with
  | ok e => exact sentence_eq_ok_iff_run.mpr ((sentence_eq_ok_iff_run.mp h).map hf)
  | error p =>
    obtain ⟨fault, k⟩ := p
    refine sentence_eq_error_iff.mpr ?_
    rcases sentence_eq_error_iff.mp h with ⟨rfl, rfl, rfl⟩ | run | ⟨rfl, hk, e, run⟩
    · exact .inl ⟨rfl, rfl, rfl⟩
    · exact .inr (.inl (run.map hf))
    · exact .inr (.inr ⟨rfl, by simpa using hk, e, run.map hf⟩)

/-! ### Shifting -/

theorem keepsLook_shift (n : Nat) : KeepsLook (Token.shift n) := fun _ => ⟨rfl, Token.value_shift_of_ne⟩

/-- What is wrong with an invalid token is the same further on. -/
theorem detail_shift {t : Token} {what : String} (ht : t.Placed what) (hkind : t.kind = .invalid) (n : Nat) :
    Fault.detail (t.shift n) = Fault.detail t := by
  rw [ht.detail, (ht.shift hkind).detail]

/-- A fault says the same further on, since no message tells a place. -/
theorem message_shift {fault : Fault} (h : ∀ t, fault = .unexpected t → t.kind = .invalid → ∃ what, t.Placed what)
    (n : Nat) : (fault.map (Token.shift n)).message = fault.message := by
  have hdisplay : ∀ t : Token, (t.shift n).display = t.display := (keepsLook_shift n).display
  cases fault with
  | mismatch kind t =>
    unfold Fault.map Fault.message
    dsimp only
    rw [hdisplay]
  | unexpected t =>
    unfold Fault.map Fault.message
    dsimp only
    rw [hdisplay, Token.kind_shift]
    by_cases hkind : t.kind = .invalid
    · obtain ⟨what, hwhat⟩ := h t rfl hkind
      rw [detail_shift hwhat hkind]
    · rw [if_neg hkind, if_neg hkind]
  | _ => rfl

theorem blamed_shift (start n : Nat) (ts k : List Token) :
    blamed (start + n) (ts.map (Token.shift n)) (k.map (Token.shift n)) = (blamed start ts k).shift n := by
  unfold blamed
  rw [← Token.shift_startOfInput, List.head?_map, List.getLast?_map, ← Option.map_or, Option.getD_map]

end Grammar

/-- A diagnostic that says the same `n` characters further on. -/
def Diagnostic.shift (n : Nat) (d : Diagnostic) : Diagnostic := ⟨d.token.shift n, d.message⟩

/-- Diagnostics that say the same `n` characters further on. -/
def Diagnostics.shift (n : Nat) (ds : Diagnostics) : Diagnostics := ⟨ds.first.shift n, ds.others.map (Diagnostic.shift n)⟩

/-- Tokens that stand further on are read alike, if the invalid ones tell their places. -/
theorem parseTokens_shift (start n : Nat) {ts : List Token}
    (hts : ∀ t ∈ ts, t.kind = .invalid → ∃ what, t.Placed what) :
    parseTokens (start + n) (ts.map (Token.shift n)) = (parseTokens start ts).mapError (Diagnostics.shift n) := by
  have hmap := Grammar.sentence_map (Grammar.keepsLook_shift n) ts
  unfold parseTokens
  rw [hmap]
  cases h : Parse.sentence ts with
  | ok e => rfl
  | error p =>
    obtain ⟨fault, k⟩ := p
    have hmessage : (fault.map (Token.shift n)).message = fault.message := by
      refine Grammar.message_shift ?_ n
      rintro t rfl hkind
      exact hts t (Grammar.mem_of_fault h (.inl rfl)) hkind
    simp only [Except.mapError, Grammar.blamed_shift, hmessage]
    rfl

/-- **A text that stands further on is read alike.** Its tokens are the same, further on. An invalid token tells its
place at the end of its value, and nothing but that is changed in it. The text is read as the same expression, or the
diagnostics have the same messages and point further on. -/
theorem parseAt_shift (offset : Nat) (text : String) :
    tokensAt offset text = (tokens text).map (Token.shift offset) ∧
      (∀ t ∈ tokens text, t.kind = .invalid →
        t.value = Fault.detail t ++ Lexeme.placeSuffix t.position ∧
          (t.shift offset).value = Fault.detail t ++ Lexeme.placeSuffix (t.position + offset)) ∧
      parseAt offset text = (parse text).mapError (Diagnostics.shift offset) := by
  have htokens : tokensAt offset text = (tokens text).map (Token.shift offset) := by
    have := tokensAt_add 0 offset text
    rwa [Nat.zero_add] at this
  have hplaced : ∀ t ∈ tokens text, t.kind = .invalid → ∃ what, t.Placed what := fun t => Scan.placed
  refine ⟨htokens, fun t ht hkind => ?_, ?_⟩
  · obtain ⟨what, hwhat⟩ := hplaced t ht hkind
    rw [hwhat.detail]
    exact ⟨hwhat, hwhat.shift hkind⟩
  · have := parseTokens_shift 0 offset hplaced
    rwa [Nat.zero_add, ← htokens] at this

end FilterLang
