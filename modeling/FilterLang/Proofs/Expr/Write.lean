import FilterLang.Expr.Canonical
import FilterLang.Expr.Write

/-!
# Writing stops where it is refused

Whatever an expression is written into, it is offered the characters of the canonical text in order, and nothing after
the first that it refuses (`writeWith_eq_foldlM`). So a sink with room for so many characters is left with that many
characters of the canonical text, or with all of it (`writeTo_limited`).
-/

namespace FilterLang

/-! ### Steps up to the first that fails -/

/-- Taking steps fails just if the steps before some element succeed and the step at that element fails, in the same way.
Whatever stands behind the element makes no difference. -/
theorem foldlM_eq_error_iff {α σ ε : Type} {f : σ → α → Except ε σ} {xs : List α} {s : σ} {e : ε} :
    xs.foldlM f s = .error e ↔
      ∃ front x back mid, xs = front ++ x :: back ∧ front.foldlM f s = .ok mid ∧ f mid x = .error e := by
  constructor
  · intro h
    induction xs generalizing s with
    | nil => cases h
    | cons x xs ih =>
      rw [List.foldlM_cons] at h
      cases hx : f s x with
      | error e' =>
        rw [hx] at h
        cases h
        exact ⟨[], x, xs, s, rfl, rfl, hx⟩
      | ok next =>
        rw [hx] at h
        obtain ⟨front, y, back, mid, rfl, hfront, hy⟩ := ih h
        refine ⟨x :: front, y, back, mid, rfl, ?_, hy⟩
        rw [List.foldlM_cons, hx]
        exact hfront
  · rintro ⟨front, x, back, mid, rfl, hfront, hx⟩
    rw [List.foldlM_append, hfront]
    show (f mid x >>= fun s => back.foldlM f s) = .error e
    rw [hx]
    rfl

/-! ### Sinks -/

namespace Sink

/-- A sink with a limit takes as much as there is room for. -/
theorem foldlM_put_some (cs : List Char) (n : Nat) (written : String) :
    let s : Sink := ⟨some (n - cs.length), written ++ String.ofList (cs.take (min n cs.length))⟩
    cs.foldlM put ⟨some n, written⟩ = if cs.length ≤ n then .ok s else .error s := by
  induction cs generalizing n written with
  | nil => simp [pure, Except.pure]
  | cons c cs ih =>
    rw [List.foldlM_cons]
    cases n with
    | zero => simp [put, bind, Except.bind]
    | succ n =>
      show cs.foldlM put ⟨some n, written.push c⟩ = _
      have hwritten : written.push c ++ String.ofList (cs.take (min n cs.length)) =
          written ++ String.ofList ((c :: cs).take (min (n + 1) (c :: cs).length)) := by
        apply String.toList_injective
        simp [Nat.add_min_add_right]
      simp only [ih, hwritten, List.length_cons, Nat.add_sub_add_right, Nat.add_le_add_iff_right]

end Sink

namespace Expr

section Writers

variable {σ : Type} (put : σ → Char → Except σ σ)

mutual

/-- The canonical text in front of `k` is taken as the expression is written, and then `k`. -/
theorem foldlM_canonicalOnto : ∀ (e : Expr) (k : List Char) (s : σ),
    (canonicalOnto e k).foldlM put s = e.writeWith put s >>= fun s => k.foldlM put s
  | .identifier name reserved, k, s => by
    cases reserved <;> simp [canonicalOnto, nameOnto, writeWith]
  | .string value, k, s => by
    simp [canonicalOnto, quoteOnto, writeWith, Text.escape]
  | .integer text, k, s => by simp [canonicalOnto, writeWith]
  | .decimal text, k, s => by simp [canonicalOnto, writeWith]
  | .null, k, s => by simp [canonicalOnto, writeWith]
  | .boolean value, k, s => by simp [canonicalOnto, writeWith]
  | .list [], k, s => by simp [canonicalOnto, writeWith, writeElements]
  | .list (e :: es), k, s => by
    simp [canonicalOnto, writeWith, writeElements, foldlM_canonicalOnto e, foldlM_restOnto es]
  | .binary family op left right, k, s => by
    simp [canonicalOnto, writeWith, foldlM_canonicalOnto left, foldlM_canonicalOnto right]

/-- Further elements in front of `k` are taken as they are written, and then `k`. -/
theorem foldlM_restOnto : ∀ (es : List Expr) (k : List Char) (s : σ),
    (restOnto es k).foldlM put s = writeElements put false es s >>= fun s => k.foldlM put s
  | [], k, s => by simp [restOnto, writeElements]
  | e :: es, k, s => by
    simp [restOnto, writeElements, foldlM_canonicalOnto e, foldlM_restOnto es]

end

/-- Writing an expression is offering the characters of its canonical text in order. -/
theorem writeWith_eq_foldlM (e : Expr) (s : σ) : e.writeWith put s = e.canonical.toList.foldlM put s := by
  have h := foldlM_canonicalOnto put e [] s
  rw [canonical, String.toList_ofList, h]
  simp

end Writers

/-- **Writing stops exactly where it is refused.** A sink with room for `n` characters is left with the first `n` characters
of the canonical text, or all of them, and the writing succeeds just if that is all of them. Whatever else is written
into, it takes the canonical text character by character: writing succeeds if every character is taken, and fails as
soon as one is refused, with nothing written after it. -/
theorem writeTo_limited (e : Expr) (n : Nat) :
    (let length := e.canonical.length
     let s : Sink := ⟨some (n - length), String.ofList (e.canonical.toList.take (min n length))⟩
     e.writeTo (.empty (some n)) = if length ≤ n then .ok s else .error s) ∧
    ∀ {σ : Type} (put : σ → Char → Except σ σ) (s s' : σ),
      (e.writeWith put s = .ok s' ↔ e.canonical.toList.foldlM put s = .ok s') ∧
      (e.writeWith put s = .error s' ↔
        ∃ front c back mid, e.canonical.toList = front ++ c :: back ∧
          front.foldlM put s = .ok mid ∧ put mid c = .error s') := by
  refine ⟨?_, fun put s s' => ⟨?_, ?_⟩⟩
  · rw [writeTo, writeWith_eq_foldlM, Sink.empty, Sink.foldlM_put_some]
    simp only [String.length_toList, String.empty_append]
  · rw [writeWith_eq_foldlM]
  · rw [writeWith_eq_foldlM]
    exact foldlM_eq_error_iff

end Expr

end FilterLang
