import FilterLang.Proofs.Scan.Append

/-!
# Quoted text in any surroundings

A text of any contents can be put into a filter: escaped, and between quotes. Whatever stands before and behind, the
quotes enclose one token whose value is the text, and everything else is scanned as it is without it
(`tokensAt_quoted`). Only a string that is still open in front of the opening quote would take it for its own end.
-/

namespace FilterLang

/-- Behind a text that is scanned to its end, quoted text adds one token to the scan of what follows. -/
theorem scanAt_quoted {offset : Nat} {p : String} (hp : (scanAt offset p).ending = .complete) (value q : String) :
    scanAt offset (p ++ "'" ++ Text.escape value ++ "'" ++ q) =
      (scanAt offset p).append
        ((scanAt (offset + p.length + (Text.escape value).length + 2) q).cons
          ⟨.string, offset + p.length, value⟩) := by
  have htext : (p ++ "'" ++ Text.escape value ++ "'" ++ q).toList =
      p.toList ++ '\'' :: (Text.escapeChars value.toList ++ '\'' :: q.toList) := by
    simp [Text.escape]
  have hlength : (Text.escape value).length = (Text.escapeChars value.toList).length := by
    rw [Text.escape, String.length_ofList]
  rw [scanAt, htext, Scan.ofChars_append hp (Scan.detached_quote _), Scan.ofChars_quoted, hlength, String.length_toList]
  rfl

/-- **Escaped text can be put between quotes anywhere.** Let the text in front be scanned to its end. Then its tokens
come first, unchanged; the quoted text is one token, whose value is the text as it was before it was escaped; and the
tokens behind it are those of what follows, however it goes on. The whole ends as what follows does. -/
theorem tokensAt_quoted (offset : Nat) (p value q : String) (hp : (scanAt offset p).ending = .complete) :
    tokensAt offset (p ++ "'" ++ Text.escape value ++ "'" ++ q) =
        tokensAt offset p ++ ⟨.string, offset + p.length, value⟩ ::
          tokensAt (offset + p.length + (Text.escape value).length + 2) q ∧
      (scanAt offset (p ++ "'" ++ Text.escape value ++ "'" ++ q)).ending =
        (scanAt (offset + p.length + (Text.escape value).length + 2) q).ending := by
  rw [tokensAt, scanAt_quoted hp]
  exact ⟨rfl, rfl⟩

/-- Contents that try to close the string and to end in a backslash, between a string cut short by an escape without a
meaning and a string that is never closed. -/
theorem tokensAt_quoted_breakout :
    (scanAt 7 "'a\\q@").ending = .complete ∧
      tokensAt 7 ("'a\\q@" ++ "'" ++ Text.escape "' or 1 eq 1 \\" ++ "'" ++ "x 'y") =
          tokensAt 7 "'a\\q@" ++ ⟨.string, 7 + "'a\\q@".length, "' or 1 eq 1 \\"⟩ ::
            tokensAt (7 + "'a\\q@".length + (Text.escape "' or 1 eq 1 \\").length + 2) "x 'y" ∧
        (scanAt 7 ("'a\\q@" ++ "'" ++ Text.escape "' or 1 eq 1 \\" ++ "'" ++ "x 'y")).ending =
          (scanAt (7 + "'a\\q@".length + (Text.escape "' or 1 eq 1 \\").length + 2) "x 'y").ending := by
  have hp : (scanAt 7 "'a\\q@").ending = .complete := by
    have hcut : Lexeme.read '\'' ['a', '\\', 'q', '@'] = .lexeme (.badEscape 'q' 1) 3 := by decide
    have hstray : Lexeme.read '@' [] = .lexeme (.stray '@') 0 := by decide
    show (Scan.ofChars 7 ['\'', 'a', '\\', 'q', '@']).ending = .complete
    rw [Scan.ofChars_lexeme (by decide) hcut]
    show (Scan.ofChars 11 ['@']).ending = .complete
    rw [Scan.ofChars_lexeme (by decide) hstray]
    show (Scan.ofChars 12 []).ending = .complete
    rw [Scan.ofChars_nil]
  exact ⟨hp, tokensAt_quoted 7 "'a\\q@" "' or 1 eq 1 \\" "x 'y" hp⟩

end FilterLang
