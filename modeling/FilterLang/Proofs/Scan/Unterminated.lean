import FilterLang.Proofs.Grammar.Exact
import FilterLang.Proofs.Scan.Append

/-!
# Strings that are never closed

A string that is never closed ends the tokens. The text before its opening quote is scanned to its end and has the very
same tokens (`ofChars_unterminated_iff`), so reading the whole text comes out as reading what stands before the quote:
the string and everything behind it are passed over in silence.
-/

namespace FilterLang

namespace Scan

variable {position start : Nat} {dangling : Bool} {cs : List Char} {ts : List Token}

/-- The lexemes in front of a string that is never closed are those of the text before its opening quote. -/
theorem Munch.exists_of_unterminated {s : Scan} (h : Munch position cs s) (hs : s.ending = .unterminated start dangling) :
    ∃ front rest, cs = front ++ '\'' :: rest ∧ start = position + front.length ∧
      Quoted.read rest = .unclosed dangling rest.length ∧ Munch position front ⟨s.tokens, .complete⟩ := by
  induction h with
  | blanks hw => cases hs
  | unclosed hw hbody =>
    cases hs
    exact ⟨_, _, rfl, rfl, Quoted.read_eq_unclosed_iff.mpr ⟨rfl, _, _, hbody, (List.append_nil _).symm⟩, .blanks hw⟩
  | dangling hw hbody =>
    cases hs
    exact ⟨_, _, rfl, rfl, Quoted.read_eq_unclosed_iff.mpr ⟨rfl, _, _, hbody, rfl⟩, .blanks hw⟩
  | @lexeme position w l k t s hw hform _ ih =>
    obtain ⟨front, rest, rfl, rfl, hrest, hfront⟩ := ih hs
    refine ⟨w ++ (l ++ front), rest, by simp, ?_, hrest, .lexeme hw hform.of_append hfront⟩
    simp only [List.length_append]
    omega

/-- The scan ends in a string that is never closed where what stands before has been scanned to its end. -/
theorem exists_of_unterminated (h : ofChars position cs = ⟨ts, .unterminated start dangling⟩) :
    ∃ front rest, cs = front ++ '\'' :: rest ∧ start = position + front.length ∧
      Quoted.read rest = .unclosed dangling rest.length ∧ ofChars position front = ⟨ts, .complete⟩ := by
  have hmunch : Munch position cs ⟨ts, .unterminated start dangling⟩ := by
    rw [← h]
    exact munch_ofChars position cs
  obtain ⟨front, rest, hcs, hstart, hrest, hfront⟩ := hmunch.exists_of_unterminated rfl
  exact ⟨front, rest, hcs, hstart, hrest, hfront.ofChars_eq⟩

/-- **A scan ends in a string that is never closed just if a quote follows a text that is scanned to its end, and no
quote that closes the string follows that one.** The string adds no token. -/
theorem ofChars_unterminated_iff :
    ofChars position cs = ⟨ts, .unterminated start dangling⟩ ↔
      ∃ front rest, cs = front ++ '\'' :: rest ∧ start = position + front.length ∧
        Quoted.read rest = .unclosed dangling rest.length ∧ ofChars position front = ⟨ts, .complete⟩ := by
  constructor
  · exact exists_of_unterminated
  · rintro ⟨front, rest, rfl, rfl, hrest, hfront⟩
    have hread : Lexeme.read '\'' rest = .unterminated dangling rest.length :=
      Lexeme.read_eq_unterminated_iff.mpr ⟨rfl, hrest⟩
    rw [ofChars_append (by rw [hfront]) (detached_quote rest), hfront, ofChars_unterminated (by decide) hread]
    simp [append]

end Scan

/-- **A text with a string that is never closed is read as if it ended before that string.** So it is rejected just if
what stands before the string is no expression by itself. -/
theorem parseAt_unterminated (offset : Nat) (text : String) (start : Nat) (dangling : Bool)
    (h : (scanAt offset text).ending = .unterminated start dangling) :
    ∃ front rest : String, text = front ++ "'" ++ rest ∧ start = offset + front.length ∧
      Quoted.read rest.toList = .unclosed dangling rest.length ∧
      scanAt offset front = ⟨tokensAt offset text, .complete⟩ ∧ parseAt offset text = parseAt offset front ∧
      ((∃ ds, parseAt offset text = .error ds) ↔ ¬ ∃ e, Grammar.Sentence (tokensAt offset front) e) := by
  have hscan : Scan.ofChars offset text.toList = ⟨tokensAt offset text, .unterminated start dangling⟩ := by
    rw [← h]
    rfl
  obtain ⟨front, rest, htext, hstart, hrest, hfront⟩ := Scan.ofChars_unterminated_iff.mp hscan
  have htokens : tokensAt offset (String.ofList front) = tokensAt offset text := by
    rw [tokensAt, scanAt, String.toList_ofList, hfront]
  have hparse : parseAt offset text = parseAt offset (String.ofList front) := by
    rw [parseAt, parseAt, htokens]
  refine ⟨String.ofList front, String.ofList rest, ?_, ?_, ?_, ?_, hparse, ?_⟩
  · apply String.toList_injective
    simp [htext]
  · simpa using hstart
  · simpa using hrest
  · rw [scanAt, String.toList_ofList, hfront]
  · rw [hparse]
    exact Grammar.parseTokens_error_iff

/-- A text that ends right after the backslash of a string, where an operand is missing. -/
theorem parseAt_unterminated_dangling :
    (scanAt 3 "a eq 'b\\").ending = .unterminated 8 true ∧
      ∃ front rest : String, "a eq 'b\\" = front ++ "'" ++ rest ∧ 8 = 3 + front.length ∧
        Quoted.read rest.toList = .unclosed true rest.length ∧ scanAt 3 front = ⟨tokensAt 3 "a eq 'b\\", .complete⟩ ∧
        parseAt 3 "a eq 'b\\" = parseAt 3 front ∧
        ((∃ ds, parseAt 3 "a eq 'b\\" = .error ds) ↔ ¬ ∃ e, Grammar.Sentence (tokensAt 3 front) e) := by
  have hending : (scanAt 3 "a eq 'b\\").ending = .unterminated 8 true := by decide +kernel
  exact ⟨hending, parseAt_unterminated 3 "a eq 'b\\" 8 true hending⟩

/-- A string that is never closed may stand behind an expression, and the text is then accepted. -/
theorem parseAt_accepts_unterminated :
    ¬ ∀ (offset : Nat) (text : String) (start : Nat) (dangling : Bool),
      (scanAt offset text).ending = .unterminated start dangling → ∃ ds, parseAt offset text = .error ds := by
  intro h
  have hscan : scanAt 0 "1 'a" = ⟨[⟨.integer, 0, "1"⟩], .unterminated 2 false⟩ := by decide +kernel
  have hending : (scanAt 0 "1 'a").ending = .unterminated 2 false := by rw [hscan]
  have hparse : parseAt 0 "1 'a" = .ok (.integer "1") := by
    rw [parseAt, tokensAt, hscan]
    exact Grammar.parseTokens_ok_iff_sentence.mpr (Grammar.Derives.chain_of_primary (.leaf .integer) .or)
  obtain ⟨ds, hds⟩ := h 0 "1 'a" 2 false hending
  rw [hparse] at hds
  cases hds

end FilterLang
