import FilterLang.Proofs.Lexeme.Reading

/-!
# How lexemes are written

What is spelled as a name, an integer or a decimal is read as one lexeme and as what it is, in front of any text that
does not go on with it, and so is a quoted string and a character that is a token by itself.
-/

namespace FilterLang.Lexeme

open FilterLang.Text

variable {c : Char} {cs : List Char} {kind : Token.Kind}

/-! ### Runs of characters -/

section Runs

variable {k : List Char}

theorem readWord_run (hcs : ∀ d ∈ cs, inWord d = true) (hk : ∀ d ∈ k.head?, inWord d = false) (c : Char) :
    readWord c (cs ++ k) = .lexeme (.plain (wordKind (c :: cs)) (c :: cs)) cs.length := by
  simp only [readWord, (takeWhile_run hcs hk).1]

theorem readName_run (hcs : IsName cs) (hk : ∀ d ∈ k.head?, inWord d = false) :
    readName (cs ++ k) = .lexeme (.plain .identifier cs) cs.length := by
  obtain ⟨c, cs, rfl⟩ := List.exists_cons_of_ne_nil hcs.ne_nil
  have hall : ∀ d ∈ c :: cs, inWord d = true :=
    List.forall_mem_cons.mpr ⟨inWord_of_startsWord hcs.1, hcs.2⟩
  have hstart : (c :: cs ++ k).head?.any startsWord = true := hcs.1
  simp only [readName, hstart, if_true, (takeWhile_run hall hk).1]

theorem readName_stray (hk : ∀ d ∈ k.head?, startsWord d = false) : readName k = .lexeme (.stray '@') 0 := by
  have hstart : ¬ k.head?.any startsWord = true := by
    cases k with
    | nil => simp
    | cons d k => simp [hk d rfl]
  rw [readName, if_neg hstart]

theorem readNumber_integer (hcs : ∀ d ∈ cs, d.isDigit = true)
    (hk : ∀ d ∈ k.head?, d.isDigit = false ∧ d ≠ '.') (c : Char) :
    readNumber c (cs ++ k) = .lexeme (.plain .integer (c :: cs)) cs.length := by
  obtain ⟨htake, hdrop⟩ := takeWhile_run hcs fun d hd => (hk d hd).1
  simp only [readNumber, htake, hdrop]
  split
  · exact absurd rfl (hk '.' rfl).2
  · rfl

theorem readNumber_decimal {whole fraction : List Char} (hwhole : ∀ d ∈ whole, d.isDigit = true)
    (hfraction : ∀ d ∈ fraction, d.isDigit = true) (hk : ∀ d ∈ k.head?, d.isDigit = false) (c : Char) :
    readNumber c (whole ++ '.' :: fraction ++ k) =
      .lexeme (.plain .decimal (c :: (whole ++ '.' :: fraction))) (whole ++ '.' :: fraction).length := by
  have hpoint : ∀ d ∈ ('.' :: (fraction ++ k)).head?, d.isDigit = false := by
    rintro d ⟨⟩
    decide
  obtain ⟨htake, hdrop⟩ := takeWhile_run hwhole hpoint
  rw [List.append_assoc, List.cons_append]
  simp only [readNumber, htake, hdrop, (takeWhile_run hfraction hk).1]

end Runs

/-! ### Numbers -/

/-- A lexeme that begins as a number does is read as a number. -/
theorem read_eq_readNumber (h : c.isDigit = true ∨ c = '-' ∧ cs.head?.any Char.isDigit = true) :
    read c cs = readNumber c cs := by
  rcases h with h | ⟨rfl, h⟩
  · have hat : c ≠ '@' := by
      rintro rfl
      exact absurd h (by decide)
    simp [read, hat, startsWord_of_isDigit h, h]
  · have hstart : startsWord '-' = false := by decide
    simp [read, hstart, h]

/-- An integer begins as a number does, whatever follows. -/
theorem starts_of_isInteger (h : IsInteger (c :: cs)) (k : List Char) :
    (c.isDigit = true ∨ c = '-' ∧ (cs ++ k).head?.any Char.isDigit = true) ∧ ∀ d ∈ cs, d.isDigit = true := by
  rcases isInteger_cons_iff.mp h with ⟨hc, hcs⟩ | ⟨rfl, hne, hcs⟩
  · exact ⟨.inl hc, hcs⟩
  · obtain ⟨d, ds, rfl⟩ := List.exists_cons_of_ne_nil hne
    exact ⟨.inr ⟨rfl, hcs d List.mem_cons_self⟩, hcs⟩

theorem read_integer (h : IsInteger (c :: cs)) {k : List Char} (hk : ∀ d ∈ k.head?, d.isDigit = false ∧ d ≠ '.') :
    read c (cs ++ k) = .lexeme (.plain .integer (c :: cs)) cs.length := by
  obtain ⟨hc, hcs⟩ := starts_of_isInteger h k
  rw [read_eq_readNumber hc, readNumber_integer hcs hk]

theorem read_decimal (h : IsDecimal (c :: cs)) {k : List Char} (hk : ∀ d ∈ k.head?, d.isDigit = false) :
    read c (cs ++ k) = .lexeme (.plain .decimal (c :: cs)) cs.length := by
  obtain ⟨whole, fraction, hwhole, hfraction, rfl⟩ := isDecimal_cons_iff.mp h
  obtain ⟨hc, hcs⟩ := starts_of_isInteger hwhole ('.' :: fraction ++ k)
  rw [← List.append_assoc] at hc
  rw [read_eq_readNumber hc, readNumber_decimal hcs hfraction hk]

/-! ### Words -/

/-- The bare word for a name that is not reserved is that name. -/
theorem wordKind_eq_identifier {name : String} (h : isReservedWord name = false) :
    wordKind name.toList = .identifier := by
  unfold wordKind
  rw [String.ofList_toList]
  split <;> first | cases h | skip
  next hnull htrue hfalse =>
    have hop : isOperatorWord name = false := by
      simp_all [isReservedWord, reservedWords, isOperatorWord]
    simp [hop]

/-- An operator word is a name, and written bare it is that operator. -/
theorem isName_of_isOperatorWord {word : String} (h : isOperatorWord word = true) :
    IsName word.toList ∧ wordKind word.toList = .operator := by
  have hword : word ∈ operatorWords := List.contains_iff_mem.mp h
  have hall : ∀ w ∈ operatorWords, IsName w.toList ∧ wordKind w.toList = .operator := by decide
  exact hall word hword

/-- A word with a binary form is an operator. -/
theorem isOperatorWord_of_ofWord? {word : String} {family : Family} (h : Family.ofWord? word = some family) :
    isOperatorWord word = true := by
  unfold Family.ofWord? at h
  split at h <;> first | rfl | cases h

theorem read_word (h : IsName (c :: cs)) {k : List Char} (hk : ∀ d ∈ k.head?, inWord d = false) :
    read c (cs ++ k) = .lexeme (.plain (wordKind (c :: cs)) (c :: cs)) cs.length := by
  obtain ⟨hc, hcs⟩ := h
  have hat : c ≠ '@' := by
    rintro rfl
    exact absurd hc (by decide)
  rw [read, if_neg hat, if_pos hc, readWord_run hcs hk]

/-- A name after `@`, reserved or not. -/
theorem read_at (h : IsName cs) {k : List Char} (hk : ∀ d ∈ k.head?, inWord d = false) :
    read '@' (cs ++ k) = .lexeme (.plain .identifier cs) cs.length := by
  rw [read, if_pos rfl, readName_run h hk]

/-! ### Other lexemes -/

theorem read_quoted (cs k : List Char) :
    read '\'' (escapeChars cs ++ '\'' :: k) = .lexeme (.plain .string cs) ((escapeChars cs).length + 1) := by
  rw [read_quote, readString, Quoted.read_escapeChars]

/-- What is a token by itself is neither part of a longer one nor a blank. -/
theorem read_punctuation (h : punctuation? c = some kind) (cs : List Char) :
    isBlank c = false ∧ read c cs = .lexeme (.plain kind [c]) 0 := by
  unfold punctuation? at h
  split at h <;> cases h <;> exact ⟨by decide, rfl⟩

/-- What is written for a token of a kind, so far as the kind tells. -/
def Spelled : Token.Kind → List Char → Prop
  | .identifier, cs => IsName cs
  | .integer, cs => IsInteger cs
  | .decimal, cs => IsDecimal cs
  | _, _ => True

end FilterLang.Lexeme
