import FilterLang.Fault
import FilterLang.Proofs.Scan.Append

/-!
# Where a text stands

The tokens of a text that stands further on are the same tokens, further on (`tokensAt_shift`): the position of each is
shifted, and so is the place that an invalid token tells at the end of its value. All else about a token is left as
it is.

Hence a text can be scanned in parts that do not run into each other (`tokensAt_append`), and how many blanks stand
between two parts makes no difference except for positions.
-/

namespace FilterLang

open FilterLang.Text

/-! ### Shifting a token -/

namespace Token

/-- Whether the value of a token ends with the words that tell its place. -/
def tellsPlace (t : Token) : Bool := (Lexeme.placeSuffix t.position).toList.isSuffixOf t.value.toList

/-- A token `n` characters further on. If an invalid token tells its place, it tells the new one. -/
def shift (n : Nat) (t : Token) : Token :=
  ⟨t.kind, t.position + n,
    if t.kind = .invalid ∧ t.tellsPlace then Fault.detail t ++ Lexeme.placeSuffix (t.position + n) else t.value⟩

variable {n : Nat} {t : Token}

@[simp] theorem kind_shift : (t.shift n).kind = t.kind := rfl

theorem value_shift_of_ne (h : t.kind ≠ .invalid) : (t.shift n).value = t.value := by simp [shift, h]

theorem shift_of_ne (h : t.kind ≠ .invalid) : t.shift n = ⟨t.kind, t.position + n, t.value⟩ := by simp [shift, h]

@[simp] theorem shift_startOfInput (start : Nat) : (startOfInput start).shift n = startOfInput (start + n) := by
  have htells : (startOfInput start).tellsPlace = false := by
    simp [tellsPlace, startOfInput, Lexeme.placeSuffix]
  rw [shift, if_neg (by simp [htells])]
  rfl

/-- The value of a token is this and then the words that tell its place. -/
def Placed (t : Token) (what : String) : Prop := t.value = what ++ Lexeme.placeSuffix t.position

theorem dropEnding_append (what ending : String) : Fault.dropEnding ending (what ++ ending) = what := by
  have hsuffix : ending.toList.isSuffixOf (what ++ ending).toList = true := by
    rw [List.isSuffixOf_iff_suffix, String.toList_append]
    exact List.suffix_append _ _
  rw [Fault.dropEnding, if_pos hsuffix, String.length_append, Nat.add_sub_cancel, String.toList_append,
    ← String.length_toList, List.take_left, String.ofList_toList]

namespace Placed

variable {what : String}

theorem tells (h : t.Placed what) : t.tellsPlace = true := by
  rw [tellsPlace, List.isSuffixOf_iff_suffix, h, String.toList_append]
  exact List.suffix_append _ _

/-- The place is taken off exactly. -/
theorem detail (h : t.Placed what) : Fault.detail t = what := by
  rw [Fault.detail, h, dropEnding_append]

theorem shift (h : t.Placed what) (hkind : t.kind = .invalid) : (t.shift n).Placed what := by
  simp only [Placed, Token.shift, hkind, h.tells, h.detail, and_self, if_true]

end Placed

end Token

/-! ### Shifting a text -/

namespace Lexeme

variable {l k : List Char} {position : Nat} {t : Token}

/-- The kinds of words are kinds of tokens that have a meaning. -/
theorem WordKind.ne_invalid {word : String} {kind : Token.Kind} (h : WordKind word kind) : kind ≠ .invalid := by
  cases h <;> simp

/-- An invalid token tells its place. -/
theorem Form.placed (h : Form l k position t) (hkind : t.kind = .invalid) : ∃ what, t.Placed what := by
  cases h with
  | word _ _ hword => exact absurd hkind hword.ne_invalid
  | punctuation hmem =>
    cases hkind
    simp at hmem
  | stray => exact ⟨_, rfl⟩
  | badEscape => exact ⟨_, rfl⟩
  | _ => cases hkind

/-- A lexeme has the same form further on. -/
theorem Form.shift (h : Form l k position t) (n : Nat) : Form l k (position + n) (t.shift n) := by
  have hvalue : ∀ what : String, t.kind = .invalid → t.Placed what →
      t.shift n = ⟨.invalid, t.position + n, what ++ placeSuffix (t.position + n)⟩ := by
    intro what hkind hplaced
    simp only [Token.shift, hkind, hplaced.tells, hplaced.detail, and_self, if_true]
  cases h with
  | word hname hk hword =>
    rw [Token.shift_of_ne hword.ne_invalid]
    exact .word hname hk hword
  | name hname hk =>
    rw [Token.shift_of_ne (by simp)]
    exact .name hname hk
  | integer hdigits hk =>
    rw [Token.shift_of_ne (by simp)]
    exact .integer hdigits hk
  | decimal hdigits hk =>
    rw [Token.shift_of_ne (by simp)]
    exact .decimal hdigits hk
  | string hbody =>
    rw [Token.shift_of_ne (by simp)]
    exact .string hbody
  | punctuation hmem =>
    rw [Token.shift_of_ne (by rintro rfl; simp at hmem)]
    exact .punctuation hmem
  | stray hc =>
    rw [hvalue _ rfl rfl]
    exact .stray hc
  | @badEscape body value k letter position hbody hletter =>
    rw [hvalue _ rfl rfl]
    have hplace : position + 1 + body.length + n = position + n + 1 + body.length := by omega
    dsimp only
    rw [hplace]
    exact .badEscape hbody hletter

end Lexeme

namespace Scan

/-- A scan of a text that stands `n` characters further on. -/
def shift (n : Nat) (s : Scan) : Scan :=
  ⟨s.tokens.map (Token.shift n),
    match s.ending with
    | .complete => .complete
    | .unterminated start dangling => .unterminated (start + n) dangling⟩

/-- A text is made up of the same lexemes further on. -/
theorem Munch.shift {position : Nat} {cs : List Char} {s : Scan} (h : Munch position cs s) (n : Nat) :
    Munch (position + n) cs (s.shift n) := by
  induction h with
  | blanks hw => exact .blanks hw
  | unclosed hw hbody =>
    simp only [Scan.shift, Nat.add_right_comm _ _ n]
    exact .unclosed hw hbody
  | dangling hw hbody =>
    simp only [Scan.shift, Nat.add_right_comm _ _ n]
    exact .dangling hw hbody
  | @lexeme position w l k t s hw hform _ ih =>
    have hform' := hform.shift n
    rw [Nat.add_right_comm] at hform'
    rw [Nat.add_right_comm, Nat.add_right_comm position] at ih
    exact .lexeme hw hform' ih

/-- **Scanning a text further on shifts its scan.** -/
theorem ofChars_shift (position n : Nat) (cs : List Char) :
    ofChars (position + n) cs = (ofChars position cs).shift n :=
  ((munch_ofChars position cs).shift n).ofChars_eq

/-- Every invalid token of a text tells its place. -/
theorem placed {position : Nat} {cs : List Char} {t : Token} (ht : t ∈ (ofChars position cs).tokens)
    (hkind : t.kind = .invalid) : ∃ what, t.Placed what := by
  obtain ⟨l, k, position, hform⟩ := exists_form ht
  exact hform.placed hkind

end Scan

/-- The tokens of a text that stands further on are its tokens, further on. -/
theorem tokensAt_add (position n : Nat) (text : String) :
    tokensAt (position + n) text = (tokensAt position text).map (Token.shift n) := by
  rw [tokensAt, scanAt, Scan.ofChars_shift]
  rfl

/-! ### Texts in a row -/

/-- Blanks, at least one. -/
def Text.IsBlanks (cs : List Char) : Prop := cs ≠ [] ∧ ∀ c ∈ cs, isBlank c = true

/-- Blanks run into nothing. -/
theorem Text.IsBlanks.detached {w : List Char} (h : IsBlanks w) (cs : List Char) : Detached (w ++ cs) := by
  obtain ⟨hne, hw⟩ := h
  obtain ⟨c, w, rfl⟩ := List.exists_cons_of_ne_nil hne
  have hc : isBlank c = true := hw c List.mem_cons_self
  rw [List.cons_append, detached_cons_iff]
  refine ⟨inWord_of_isBlank hc, ?_⟩
  rintro rfl
  exact absurd hc (by decide)

namespace Scan

variable {offset : Nat} {p : String}

theorem tokensAt_append_of_detached (hp : (scanAt offset p).ending = .complete) {q : String}
    (hq : Detached q.toList) : tokensAt offset (p ++ q) = tokensAt offset p ++ tokensAt (offset + p.length) q := by
  rw [tokensAt, scanAt, String.toList_append, ofChars_append hp hq, String.length_toList]
  rfl

/-- Blanks between two texts only shift the second. -/
theorem tokensAt_append_blanks (hp : (scanAt offset p).ending = .complete) {w : String} (hw : IsBlanks w.toList)
    (r : String) :
    tokensAt offset (p ++ (w ++ r)) =
      tokensAt offset p ++ (tokensAt (offset + p.length) r).map (Token.shift w.length) := by
  have hdetached : Detached (w ++ r).toList := by
    rw [String.toList_append]
    exact hw.detached r.toList
  rw [tokensAt_append_of_detached hp hdetached, ← tokensAt_add]
  congr 1
  rw [tokensAt, scanAt, String.toList_append, ofChars_blanks hw.2, String.length_toList]
  rfl

end Scan

/-- **A text can be scanned in parts.** If the first part does not end within a string, and the second does not begin
with a word character or a point, then the tokens of the two stand one after the other. If blanks stand between two
parts, any other blanks may stand there: what comes behind them is shifted, and nothing else changes. -/
theorem tokensAt_append (offset : Nat) (p q : String) (hp : (scanAt offset p).ending = .complete)
    (hq : Detached q.toList) :
    tokensAt offset (p ++ q) = tokensAt offset p ++ tokensAt (offset + p.length) q ∧
      ∀ w w' r : String, IsBlanks w.toList → IsBlanks w'.toList →
        ∃ us : List Token, tokensAt offset (p ++ (w ++ r)) = tokensAt offset p ++ us.map (Token.shift w.length) ∧
          tokensAt offset (p ++ (w' ++ r)) = tokensAt offset p ++ us.map (Token.shift w'.length) := by
  refine ⟨Scan.tokensAt_append_of_detached hp hq, fun w w' r hw hw' => ?_⟩
  exact ⟨tokensAt (offset + p.length) r, Scan.tokensAt_append_blanks hp hw r, Scan.tokensAt_append_blanks hp hw' r⟩

/-- A string cut short by an escape without a meaning, and a stray character, in front of a string that is never
closed. -/
theorem tokensAt_append_invalid :
    (scanAt 5 "'b\\qc #").ending = .complete ∧ Detached "(-1.x'y".toList ∧
      tokensAt 5 ("'b\\qc #" ++ "(-1.x'y") = tokensAt 5 "'b\\qc #" ++ tokensAt (5 + "'b\\qc #".length) "(-1.x'y" ∧
      ∀ w w' r : String, IsBlanks w.toList → IsBlanks w'.toList →
        ∃ us : List Token,
          tokensAt 5 ("'b\\qc #" ++ (w ++ r)) = tokensAt 5 "'b\\qc #" ++ us.map (Token.shift w.length) ∧
          tokensAt 5 ("'b\\qc #" ++ (w' ++ r)) = tokensAt 5 "'b\\qc #" ++ us.map (Token.shift w'.length) := by
  have hp : (scanAt 5 "'b\\qc #").ending = .complete := by decide +kernel
  have hq : Detached "(-1.x'y".toList := detached_cons_iff.mpr (by decide)
  exact ⟨hp, hq, tokensAt_append 5 "'b\\qc #" "(-1.x'y" hp hq⟩

end FilterLang
