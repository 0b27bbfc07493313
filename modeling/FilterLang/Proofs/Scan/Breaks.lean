import FilterLang.Proofs.Json.Characters
import FilterLang.Proofs.Scan.Shift
import FilterLang.Proofs.Text.Lines

/-!
# Line breaks in tokens

Which tokens hold a line break, whatever the text. Words, numbers and punctuation never do, and a line break is a blank,
so it is no stray character either. There are strings that stand for a line break, and there is the token of a
backslash with a line break behind it, which names the character that it complains of
(`Lexeme.Form.oneLine_value_iff`). Such a backslash stands in the text where its token says (`exists_break`).

As source text every token is a single line (`Lexeme.Form.oneLine_display`), because strings are escaped there.
-/

namespace FilterLang

open FilterLang.Text

/-! ### Texts that are a single line -/

theorem Json.NumberText.no_break {cs : List Char} (h : NumberText cs) : '\n' ∉ cs := fun hbreak =>
  absurd (h _ hbreak).le_toNat (by decide)

theorem Text.oneLine_nat (n : Nat) : OneLine (toString n) := (Json.numberText_nat n).no_break

theorem Text.oneLine_name {cs : List Char} (h : IsName cs) : OneLine (String.ofList cs) := by
  have hword : ∀ c ∈ cs, inWord c = true := by
    cases cs with
    | nil => exact absurd rfl h.ne_nil
    | cons c cs => exact List.forall_mem_cons.mpr ⟨inWord_of_startsWord h.1, h.2⟩
  rw [oneLine_ofList]
  intro hbreak
  have hblank : inWord '\n' = false := inWord_of_isBlank (by decide)
  rw [hword _ hbreak] at hblank
  cases hblank

theorem Text.IsInteger.numberText {cs : List Char} (h : IsInteger cs) : Json.NumberText cs := by
  obtain ⟨ds, ⟨-, hds⟩, rfl | rfl⟩ := h
  · exact fun c hc => .inl (hds c hc)
  · exact Json.numberText_cons.mpr ⟨by decide, fun c hc => .inl (hds c hc)⟩

theorem Text.IsDecimal.numberText {cs : List Char} (h : IsDecimal cs) : Json.NumberText cs := by
  obtain ⟨whole, fraction, hwhole, hfraction, rfl⟩ := h
  exact Json.numberText_append.mpr
    ⟨hwhole.numberText, Json.numberText_cons.mpr ⟨by decide, fun c hc => .inl (hfraction c hc)⟩⟩

/-- Escaping leaves no line break. -/
theorem Text.oneLine_escape (text : String) : OneLine (escape text) := by
  rw [escape, oneLine_ofList, escapeChars, List.mem_flatMap]
  rintro ⟨c, -, hbreak⟩
  unfold escapeChar at hbreak
  split at hbreak
  · next letter hletter =>
    unfold escapeLetter? at hletter
    split at hletter <;> cases hletter <;> simp at hbreak
  · next hnone =>
    obtain rfl : '\n' = c := List.mem_singleton.mp hbreak
    cases hnone

theorem Lexeme.oneLine_placeSuffix (position : Nat) : OneLine (placeSuffix position) :=
  oneLine_append.mpr ⟨by decide, oneLine_nat _⟩

theorem Token.Kind.oneLine_label (kind : Kind) : OneLine kind.label := by
  cases kind <;> decide

theorem Token.Kind.oneLine_name (kind : Kind) : OneLine kind.name := by
  cases kind <;> decide

/-! ### A backslash with a line break behind it -/

namespace Token

/-- The token is that of a backslash with a line break behind it. -/
def EscapesBreak (t : Token) : Prop := t.kind = .invalid ∧ t.Placed (Lexeme.badEscapeMessage '\n')

/-- The token is a string that stands for a line break, among others, or its backslash has one behind it. -/
def HoldsBreak (t : Token) : Prop := (t.kind = .string ∧ '\n' ∈ t.value.toList) ∨ t.EscapesBreak

variable {t : Token} {what what' : String}

theorem placed_append (kind : Kind) (position : Nat) (what : String) :
    Placed ⟨kind, position, what ++ Lexeme.placeSuffix position⟩ what := rfl

theorem Placed.unique (h : t.Placed what) (h' : t.Placed what') : what = what' := h.detail.symm.trans h'.detail

theorem Placed.oneLine_iff (h : t.Placed what) : OneLine t.value ↔ OneLine what := by
  rw [h, oneLine_append, and_iff_left (Lexeme.oneLine_placeSuffix t.position)]

end Token

namespace Lexeme

/-- A complaint names a character at its end, before a quote. -/
theorem toList_complaint (front : String) (c : Char) :
    (front ++ c.toString ++ "'").toList = front.toList ++ c :: ['\''] := by
  have hchar : c.toString.toList = [c] := String.toList_singleton c
  have hquote : "'".toList = ['\''] := rfl
  rw [String.toList_append, String.toList_append, List.append_assoc, hchar, hquote, List.singleton_append]

theorem toList_badEscapeMessage (c : Char) :
    (badEscapeMessage c).toList = "Unrecognized escape sequence '\\".toList ++ c :: ['\''] := toList_complaint _ c

theorem toList_strayMessage (c : Char) : (strayMessage c).toList = "Unrecognized character '".toList ++ c :: ['\''] :=
  toList_complaint _ c

theorem badEscapeMessage_inj {c d : Char} : badEscapeMessage c = badEscapeMessage d ↔ c = d := by
  rw [← String.toList_inj, toList_badEscapeMessage, toList_badEscapeMessage, List.append_cancel_left_eq,
    List.cons.injEq, and_iff_left rfl]

theorem strayMessage_ne_badEscapeMessage (c d : Char) : strayMessage c ≠ badEscapeMessage d := by
  rw [Ne, ← String.toList_inj, toList_strayMessage, toList_badEscapeMessage]
  intro h
  -- they differ from the word behind `Unrecognized` on
  have hword := congrArg (fun cs => cs[13]?) h
  simp at hword

/-- A complaint is a single line just if the character is no line break. -/
theorem oneLine_badEscapeMessage_iff {c : Char} : OneLine (badEscapeMessage c) ↔ c ≠ '\n' := by
  have hfront : '\n' ∉ "Unrecognized escape sequence '\\".toList := by decide
  rw [OneLine, toList_badEscapeMessage, List.mem_append, not_or, and_iff_right hfront, List.mem_cons, not_or,
    and_iff_left (by decide), ← ne_eq, ne_comm]

theorem oneLine_strayMessage {c : Char} (h : isBlank c = false) : OneLine (strayMessage c) := by
  have hfront : '\n' ∉ "Unrecognized character '".toList := by decide
  rw [OneLine, toList_strayMessage, List.mem_append, not_or, and_iff_right hfront, List.mem_cons, not_or,
    and_iff_left (by decide)]
  rintro rfl
  exact absurd h (by decide)

variable {l k : List Char} {position : Nat} {t : Token}

/-- What is wrong with an invalid token is told on one line, unless its backslash has a line break behind it. -/
theorem Form.exists_placed_oneLine (h : Form l k position t) (hkind : t.kind = .invalid) :
    ∃ what, t.Placed what ∧ (OneLine what ↔ ¬ t.EscapesBreak) := by
  have hiff : ∀ what, t.Placed what → (OneLine what ↔ what ≠ badEscapeMessage '\n') →
      ∃ what, t.Placed what ∧ (OneLine what ↔ ¬ t.EscapesBreak) := by
    intro what hplaced hline
    refine ⟨what, hplaced, hline.trans (not_congr ⟨?_, fun hbreak => hplaced.unique hbreak.2⟩)⟩
    rintro rfl
    exact ⟨hkind, hplaced⟩
  cases h with
  | word _ _ hword => exact absurd hkind hword.ne_invalid
  | punctuation hmem =>
    cases hkind
    simp at hmem
  | @stray c k position hc =>
    have hline : OneLine (strayMessage c) := oneLine_strayMessage hc.blank
    exact hiff (strayMessage c) rfl (iff_of_true hline (strayMessage_ne_badEscapeMessage c '\n'))
  | @badEscape body value k letter position _ _ =>
    refine hiff (badEscapeMessage letter) rfl ?_
    exact oneLine_badEscapeMessage_iff.trans (not_congr badEscapeMessage_inj.symm)
  | _ => cases hkind

/-- A token with a meaning holds no line break, unless it is a string. -/
theorem Form.oneLine_value (h : Form l k position t) (hinvalid : t.kind ≠ .invalid) (hstring : t.kind ≠ .string) :
    OneLine t.value := by
  cases h with
  | word hname => exact oneLine_name hname
  | name hname => exact oneLine_name hname
  | integer hdigits => exact oneLine_ofList.mpr hdigits.numberText.no_break
  | decimal hdigits => exact oneLine_ofList.mpr hdigits.numberText.no_break
  | string => exact absurd rfl hstring
  | punctuation hmem =>
    rw [← punctuation?_eq_some_iff] at hmem
    unfold punctuation? at hmem
    split at hmem <;> cases hmem <;> exact oneLine_ofList.mpr (by decide)
  | stray => exact absurd rfl hinvalid
  | badEscape => exact absurd rfl hinvalid

/-- **A token's value is a single line, unless it is a string that stands for a line break, or its backslash has one
behind it.** -/
theorem Form.oneLine_value_iff (h : Form l k position t) : OneLine t.value ↔ ¬ t.HoldsBreak := by
  unfold Token.HoldsBreak
  by_cases hinvalid : t.kind = .invalid
  · obtain ⟨what, hplaced, hwhat⟩ := h.exists_placed_oneLine hinvalid
    rw [hplaced.oneLine_iff, hwhat]
    simp [hinvalid]
  · have hbreak : ¬ t.EscapesBreak := fun hbreak => hinvalid hbreak.1
    by_cases hstring : t.kind = .string
    · simp [hbreak, hstring, OneLine]
    · simp [hbreak, hstring, h.oneLine_value hinvalid hstring]

/-- As source text a token is a single line. -/
theorem Form.oneLine_display (h : Form l k position t) : OneLine t.display := by
  have hvalue : t.kind ≠ .invalid → t.kind ≠ .string → OneLine t.value := h.oneLine_value
  unfold Token.display
  split
  · next hkind =>
    have hname := hvalue (by simp [hkind]) (by simp [hkind])
    split
    · exact oneLine_append.mpr ⟨by decide, hname⟩
    · exact hname
  · next hkind => exact hvalue (by simp [hkind]) (by simp [hkind])
  · next hkind => exact hvalue (by simp [hkind]) (by simp [hkind])
  · next hkind => exact hvalue (by simp [hkind]) (by simp [hkind])
  · simpa using ⟨⟨(by decide : OneLine "'"), oneLine_escape t.value⟩, (by decide : OneLine "'")⟩
  · exact Token.Kind.oneLine_label _

/-- The backslash stands in the lexeme where its token says, and has the line break behind it. -/
theorem Form.exists_break (h : Form l k position t) (hbreak : t.EscapesBreak) :
    ∃ front, l = front ++ ['\\', '\n'] ∧ t.position = position + front.length := by
  cases h with
  | word _ _ hword => exact absurd hbreak.1 hword.ne_invalid
  | punctuation hmem =>
    cases hbreak.1
    simp at hmem
  | @stray c k position hc =>
    have hplaced := Token.placed_append .invalid position (strayMessage c)
    exact absurd (hplaced.unique hbreak.2) (strayMessage_ne_badEscapeMessage c '\n')
  | @badEscape body value k letter position _ _ =>
    have hplaced := Token.placed_append .invalid (position + 1 + body.length) (badEscapeMessage letter)
    obtain rfl : letter = '\n' := badEscapeMessage_inj.mp (hplaced.unique hbreak.2)
    refine ⟨'\'' :: body, rfl, ?_⟩
    dsimp only
    rw [List.length_cons]
    omega
  | _ => cases hbreak.1

end Lexeme

/-! ### The tokens of a text -/

section Text

variable {offset : Nat} {text : String} {t : Token}

theorem exists_form_of_mem (ht : t ∈ tokensAt offset text) : ∃ l k position, Lexeme.Form l k position t :=
  Scan.exists_form ht

/-- The backslash stands in the text where its token says, and has the line break behind it. -/
theorem Scan.Munch.exists_break {position : Nat} {cs : List Char} {s : Scan} (h : Munch position cs s)
    (ht : t ∈ s.tokens) (hbreak : t.EscapesBreak) :
    ∃ front back, cs = front ++ '\\' :: '\n' :: back ∧ t.position = position + front.length := by
  induction h with
  | @lexeme position w l k u s _ hform _ ih =>
    rcases List.mem_cons.mp ht with rfl | ht
    · obtain ⟨front, rfl, hposition⟩ := hform.exists_break hbreak
      refine ⟨w ++ front, k, by simp, ?_⟩
      rw [hposition, List.length_append, Nat.add_assoc]
    · obtain ⟨front, back, rfl, hposition⟩ := ih ht
      refine ⟨w ++ (l ++ front), back, by simp, ?_⟩
      rw [hposition, List.length_append, List.length_append]
      omega
  | _ => cases ht

theorem exists_break (ht : t ∈ tokensAt offset text) (hbreak : t.EscapesBreak) :
    ∃ front back : String, text = front ++ "\\\n" ++ back ∧ t.position = offset + front.length := by
  obtain ⟨front, back, htext, hposition⟩ := (Scan.munch_ofChars offset text.toList).exists_break ht hbreak
  refine ⟨String.ofList front, String.ofList back, ?_, ?_⟩
  · apply String.toList_injective
    simp [htext]
  · simpa using hposition

end Text

end FilterLang
