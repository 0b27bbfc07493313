import FilterLang.Proofs.Scan.Munch

/-!
# Scanning one text after another

A text that is scanned to its end is scanned alike in front of any text that is detached from it: the tokens of the
two stand one after the other (`ofChars_append`). So the scan of a text can be put together from the scans of its parts.
-/

namespace FilterLang.Scan

open FilterLang.Text

variable {position : Nat} {c : Char} {cs p q : List Char}

/-! ### Texts in a row -/

/-- The tokens of two scans one after the other. The text ends as the second does. -/
def append (s s' : Scan) : Scan := ⟨s.tokens ++ s'.tokens, s'.ending⟩

/-- The lexemes of a text and of one that is detached from it are those of both in a row. -/
theorem Munch.append {s s' : Scan} (h : Munch position p s) (hs : s.ending = .complete) (hq : Detached q)
    (h' : Munch (position + p.length) q s') : Munch position (p ++ q) (s.append s') := by
  induction h with
  | blanks hw => exact h'.blanks_append hw
  | unclosed => cases hs
  | dangling => cases hs
  | @lexeme position w l k t s hw hform _ ih =>
    have hlength : position + (w ++ (l ++ k)).length = position + w.length + l.length + k.length := by
      simp only [List.length_append]
      omega
    rw [hlength] at h'
    rw [List.append_assoc, List.append_assoc]
    exact .lexeme hw (hform.append hq) (ih hs h')

/-- A text that is scanned to its end is scanned alike in front of any text that is detached from it. -/
theorem ofChars_append (h : (ofChars position p).ending = .complete) (hq : Detached q) :
    ofChars position (p ++ q) = (ofChars position p).append (ofChars (position + p.length) q) :=
  ((munch_ofChars position p).append h hq (munch_ofChars _ q)).ofChars_eq

/-! ### Quoted text -/

/-- No lexeme runs into a string. -/
theorem detached_quote (cs : List Char) : Detached ('\'' :: cs) := detached_cons_iff.mpr (by decide)

/-- A text in quotes is one token, and what follows it is scanned as if it stood by itself. -/
theorem ofChars_quoted (position : Nat) (value : String) (q : List Char) :
    ofChars position ('\'' :: (escapeChars value.toList ++ '\'' :: q)) =
      (ofChars (position + (escapeChars value.toList).length + 2) q).cons ⟨.string, position, value⟩ := by
  have hdrop : (escapeChars value.toList ++ '\'' :: q).drop ((escapeChars value.toList).length + 1) = q := by
    simp [List.drop_append]
  have hlength : position + 1 + ((escapeChars value.toList).length + 1) =
      position + (escapeChars value.toList).length + 2 := by omega
  rw [ofChars_lexeme (by decide) (Lexeme.read_quoted value.toList q), hdrop, hlength, Lexeme.token,
    String.ofList_toList]

/-! ### Texts that are scanned to their end -/

/-- The text is scanned to its end, and these are its tokens. -/
def Whole (position : Nat) (cs : List Char) (ts : List Token) : Prop := ofChars position cs = ⟨ts, .complete⟩

namespace Whole

variable {ts us : List Token}

theorem nil : Whole position [] [] := ofChars_nil position

theorem blank (hc : isBlank c = true) (h : Whole (position + 1) cs ts) : Whole position (c :: cs) ts := by
  rw [Whole, ofChars_blank hc, h]

theorem blanks {w : List Char} (hw : ∀ c ∈ w, isBlank c = true) (h : Whole (position + w.length) cs ts) :
    Whole position (w ++ cs) ts := by
  rw [Whole, ofChars_blanks hw, h]

theorem punctuation {kind : Token.Kind} (hc : Lexeme.punctuation? c = some kind) (h : Whole (position + 1) cs ts) :
    Whole position (c :: cs) (⟨kind, position, String.ofList [c]⟩ :: ts) := by
  obtain ⟨hblank, hread⟩ := Lexeme.read_punctuation hc cs
  rw [Whole, ofChars_lexeme hblank hread, Nat.add_zero, List.drop_zero, h]
  rfl

theorem append (h : Whole position p ts) (hq : Detached q) (h' : Whole (position + p.length) q us) :
    Whole position (p ++ q) (ts ++ us) := by
  rw [Whole] at h h'
  rw [Whole, ofChars_append (by rw [h]) hq, h, h']
  rfl

/-- A text that is a single lexeme with a meaning. -/
theorem plain {kind : Token.Kind} {value : String}
    (h : Lexeme.Form cs [] position ⟨kind, position, String.ofList value.toList⟩) :
    Whole position cs [⟨kind, position, value⟩] := by
  have hmunch := Munch.lexeme (w := []) (by simp) h (.blanks (w := []) (by simp))
  rw [List.nil_append, List.append_nil, String.ofList_toList] at hmunch
  exact hmunch.ofChars_eq

/-- A bare word of a given kind. -/
theorem word {word : String} {kind : Token.Kind} (h : IsName word.toList)
    (hkind : Lexeme.wordKind word.toList = kind) : Whole position word.toList [⟨kind, position, word⟩] :=
  plain (.word h (by simp) (by rwa [String.ofList_toList, ← Lexeme.wordKind_eq_iff]))

/-- A name after `@`. -/
theorem reserved {name : String} (h : IsName name.toList) :
    Whole position ('@' :: name.toList) [⟨.identifier, position, name⟩] :=
  plain (.name h (by simp))

theorem quoted (value : String) :
    Whole position ('\'' :: (escapeChars value.toList ++ ['\''])) [⟨.string, position, value⟩] := by
  rw [Whole, ofChars_quoted, ofChars_nil]
  rfl

theorem integer {text : String} (h : IsInteger text.toList) :
    Whole position text.toList [⟨.integer, position, text⟩] :=
  plain (.integer h (by simp))

theorem decimal {text : String} (h : IsDecimal text.toList) :
    Whole position text.toList [⟨.decimal, position, text⟩] :=
  plain (.decimal h (by simp))

end Whole

end FilterLang.Scan
