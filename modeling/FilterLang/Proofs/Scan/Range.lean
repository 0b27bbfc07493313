import FilterLang.Proofs.Scan.Munch

/-!
# Where the tokens of a text stand

A token stands within its lexeme: at its first character, or at the backslash of a bad escape further on
(`Lexeme.Form.position_bounds`). So the tokens of a text stand within the text (`Scan.Munch.position_bounds`), each
further on than the one before it (`Scan.Munch.sorted`).
-/

namespace FilterLang

/-- A token stands within its lexeme. -/
theorem Lexeme.Form.position_bounds {l k : List Char} {position : Nat} {t : Token} (h : Form l k position t) :
    position ≤ t.position ∧ t.position < position + l.length := by
  have hpos : 0 < l.length := List.length_pos_iff.mpr h.ne_nil
  cases h with
  | badEscape =>
    simp only [List.length_cons, List.length_append, List.length_nil]
    omega
  | _ => exact ⟨Nat.le_refl _, by dsimp only; omega⟩

namespace Scan

variable {position : Nat} {cs : List Char} {s : Scan}

/-- The tokens of a text stand within the text. -/
theorem Munch.position_bounds (h : Munch position cs s) :
    ∀ t ∈ s.tokens, position ≤ t.position ∧ t.position < position + cs.length := by
  induction h with
  | @lexeme position w l k t s _ hform _ ih =>
    intro u hu
    simp only [List.length_append]
    rcases List.mem_cons.mp hu with rfl | hu
    · have := hform.position_bounds
      omega
    · have := ih u hu
      omega
  | _ => simp

/-- Each token of a text stands further on than the one before it. -/
theorem Munch.sorted (h : Munch position cs s) : s.tokens.Pairwise fun t u => t.position < u.position := by
  induction h with
  | lexeme _ hform hrest ih =>
    refine List.pairwise_cons.mpr ⟨fun u hu => ?_, ih⟩
    exact Nat.lt_of_lt_of_le hform.position_bounds.2 (hrest.position_bounds u hu).1
  | _ => exact .nil

end Scan

end FilterLang
