import FilterLang.Proofs.Grammar.Lookahead
import FilterLang.Proofs.Scan.Range

/-!
# Where diagnostics point

A reading that fails has one diagnostic. It points at a token of the text, or at the start of the text if there is none
(`exists_diagnostic_of_parseAt`). So it points into the text, or right behind its start if the text is empty.
-/

namespace FilterLang

namespace Grammar

/-- If there is a token, the one that is blamed is one of them. -/
theorem blamed_mem {start : Nat} {front k : List Token} (hts : front ++ k ≠ []) :
    Parse.blamed start (front ++ k) k ∈ front ++ k := by
  cases k with
  | nil =>
    obtain ⟨t, ht⟩ := Option.ne_none_iff_exists'.mp (mt List.getLast?_eq_none_iff.mp hts)
    rw [Parse.blamed, List.head?_nil, Option.none_or, ht]
    exact List.mem_of_getLast? ht
  | cons t k => simp [Parse.blamed]

/-- Where the input starts makes no difference if there is a token. -/
theorem parseTokens_start (start start' : Nat) {ts : List Token} (hts : ts ≠ []) :
    parseTokens start ts = parseTokens start' ts := by
  obtain ⟨t, ht⟩ := Option.ne_none_iff_exists'.mp (mt List.getLast?_eq_none_iff.mp hts)
  have hblamed (k : List Token) : Parse.blamed start ts k = Parse.blamed start' ts k := by
    cases k <;> simp [Parse.blamed, ht]
  simp only [parseTokens, hblamed]

/-- Without a token the diagnostic points at the start of the input. -/
theorem parseTokens_nil (start : Nat) :
    parseTokens start [] = .error (.singleton ⟨.startOfInput start, "Expected expression"⟩) := by
  have hempty : Parse.sentence [] = .error (.empty, []) := if_pos rfl
  rw [parseTokens, hempty]
  rfl

/-- A failed reading has one diagnostic, which points at a token, or at the start of the input if there is none. -/
theorem exists_diagnostic_of_parseTokens {start : Nat} {ts : List Token} {ds : Diagnostics}
    (h : parseTokens start ts = .error ds) :
    ∃ d, ds = .singleton d ∧ (d.token ∈ ts ∨ ts = [] ∧ d.token = .startOfInput start) := by
  obtain ⟨fault, k, hsentence, rfl⟩ := parseTokens_eq_error_iff.mp h
  obtain ⟨front, rfl⟩ := exists_front_of_sentence hsentence
  refine ⟨_, rfl, ?_⟩
  by_cases hts : front ++ k = []
  · obtain ⟨rfl, rfl⟩ := List.append_eq_nil_iff.mp hts
    exact .inr ⟨rfl, rfl⟩
  · exact .inl (blamed_mem hts)

end Grammar

/-- A text that is no expression has one diagnostic. It points at a token of the text, or at the start of the text if
there is none, and so into the text if it is not empty. -/
theorem exists_diagnostic_of_parseAt {offset : Nat} {text : String} {ds : Diagnostics}
    (h : parseAt offset text = .error ds) :
    ∃ d, ds = .singleton d ∧
      (d.token ∈ tokensAt offset text ∨ tokensAt offset text = [] ∧ d.token = .startOfInput offset) ∧
      offset ≤ d.token.position ∧ d.token.position < offset + max text.length 1 := by
  obtain ⟨d, hd, hmem⟩ := Grammar.exists_diagnostic_of_parseTokens h
  refine ⟨d, hd, hmem, ?_⟩
  rcases hmem with hmem | ⟨-, htoken⟩
  · have := (Scan.munch_ofChars offset text.toList).position_bounds d.token hmem
    rw [String.length_toList] at this
    omega
  · rw [htoken, Token.startOfInput]
    dsimp only
    omega

end FilterLang
