import FilterLang.Command.ListTokens
import FilterLang.Proofs.Scan.Breaks
import FilterLang.Proofs.Text.Spelling
import FilterLang.Scanner.Lemmas

/-!
# The lines of a token listing

A listing has a line for each token, which tells its kind, its position and its value. Each of the three can be told
from the line (`Token.line_inj`). But values are listed as they are, so a value that holds a line break goes over more
than one line, and the lines of the listing are those of the tokens just if there is no such value (`listTokens_lines`).
Among texts without such values a listing determines the tokens.
-/

namespace FilterLang

open FilterLang.Text

variable {t u : Token} {ts us : List Token} {offset : Nat} {text : String}

/-! ### The line of a token -/

theorem Token.toList_line (t : Token) :
    t.line.toList =
      t.kind.name.toList ++ ',' :: ' ' :: ((toString t.position).toList ++ ',' :: ' ' :: t.value.toList) := by
  have hcomma : ", ".toList = [',', ' '] := rfl
  simp only [line, String.toList_append, hcomma, List.append_assoc, List.cons_append, List.nil_append]

theorem Token.Kind.name_inj {kind kind' : Kind} : kind.name = kind'.name ↔ kind = kind' := by
  constructor
  · intro h
    rw [← Option.some_inj, ← ofName?_name kind, h, ofName?_name]
  · rintro rfl
    rfl

/-- A number can be told from its digits. -/
theorem Text.toList_nat_inj {m n : Nat} (h : (toString m).toList = (toString n).toList) : m = n := by
  have hdigits : ∀ n : Nat, (toString n).toList = Nat.toDigits 10 n := fun n => String.toList_ofList
  rw [hdigits, hdigits] at h
  rw [← Nat.ofDigitChars_ten_toDigits (n := m), h, Nat.ofDigitChars_ten_toDigits]

/-- Neither a kind nor a position is told with a comma, so the line ends each of them. -/
theorem Token.line_inj : t.line = u.line ↔ t = u := by
  constructor
  · intro h
    have hname : ∀ kind : Kind, ∀ c ∈ kind.name.toList, (c != ',') = true := by
      intro kind
      cases kind <;> exact List.all_eq_true.mp (by decide)
    have hdigits : ∀ n : Nat, ∀ c ∈ (toString n).toList, (c != ',') = true := by
      intro n c hc
      have hdigit := Json.numberText_nat n c hc
      rw [bne_iff_ne]
      rintro rfl
      exact absurd hdigit (by decide)
    have hcomma : ∀ cs : List Char, ∀ c ∈ (',' :: cs).head?, (c != ',') = false := by simp
    rw [← String.toList_inj, toList_line, toList_line] at h
    obtain ⟨hkind, hrest⟩ := run_unique (hname t.kind) (hcomma _) (hname u.kind) (hcomma _) h
    obtain ⟨hposition, hvalue⟩ :=
      run_unique (hdigits t.position) (hcomma _) (hdigits u.position) (hcomma _) (by simpa using hrest)
    obtain ⟨kind, position, value⟩ := t
    obtain ⟨kind', position', value'⟩ := u
    obtain rfl : kind = kind' := Kind.name_inj.mp (String.toList_inj.mp hkind)
    obtain rfl : position = position' := toList_nat_inj hposition
    obtain rfl : value = value' := String.toList_inj.mp (by simpa using hvalue)
    rfl
  · rintro rfl
    rfl

/-- A token is listed on a single line just if its value is one. -/
theorem Token.oneLine_line_iff : OneLine t.line ↔ OneLine t.value := by
  have hcomma : OneLine ", " := by decide
  simp only [line, oneLine_append, Kind.oneLine_name, oneLine_nat, hcomma, true_and]

/-! ### The listing -/

/-- The lines of a listing are those of the tokens just if every value is a single line. -/
theorem lines_tokenListing_eq_iff (hts : ts ≠ []) :
    lines (tokenListing false ts) = ts.map Token.line ↔ ∀ t ∈ ts, OneLine t.value := by
  have hlines : ts.map Token.line ≠ [] := mt List.map_eq_nil_iff.mp hts
  rw [tokenListing, if_neg Bool.false_ne_true, lines_intercalate_eq_iff hlines, List.forall_mem_map]
  exact forall₂_congr fun t _ => Token.oneLine_line_iff

/-- There are as many lines as tokens just if every value is a single line. -/
theorem length_lines_tokenListing_eq_iff (hts : ts ≠ []) :
    (lines (tokenListing false ts)).length = ts.length ↔ ∀ t ∈ ts, OneLine t.value := by
  have hlines : ts.map Token.line ≠ [] := mt List.map_eq_nil_iff.mp hts
  rw [tokenListing, if_neg Bool.false_ne_true, ← List.length_map Token.line, length_lines_intercalate_eq_iff hlines,
    List.forall_mem_map]
  exact forall₂_congr fun t _ => Token.oneLine_line_iff

/-- The listing of tokens is not that of no tokens. -/
theorem tokenListing_ne_nil (hts : ts ≠ []) : tokenListing false ts ≠ tokenListing false [] := by
  obtain ⟨t, ts, rfl⟩ := List.exists_cons_of_ne_nil hts
  intro h
  have hlist : (tokenListing false (t :: ts)).toList = [] := by rw [h]; rfl
  have hline : t.line.toList ≠ [] := by
    rw [Token.toList_line]
    exact List.append_ne_nil_of_right_ne_nil _ (List.cons_ne_nil _ _)
  cases ts with
  | nil => exact hline (by simpa [tokenListing] using hlist)
  | cons u ts => simp [tokenListing] at hlist

/-- If every value is a single line, the listing determines the tokens. -/
theorem tokenListing_inj (hts : ∀ t ∈ ts, OneLine t.value) (hus : ∀ u ∈ us, OneLine u.value)
    (h : tokenListing false ts = tokenListing false us) : ts = us := by
  by_cases hnil : ts = []
  · subst hnil
    by_contra hne
    exact tokenListing_ne_nil (Ne.symm hne) h.symm
  · by_cases hnil' : us = []
    · subst hnil'
      exact absurd h (tokenListing_ne_nil hnil)
    · have hlines := (lines_tokenListing_eq_iff hnil).mpr hts
      rw [h, (lines_tokenListing_eq_iff hnil').mpr hus] at hlines
      have hinjective : Function.Injective Token.line := fun _ _ => Token.line_inj.mp
      exact (hinjective.list_map hlines).symm

/-- Listing the tokens of a text shows them all. -/
theorem value_listTokens (json : Bool) (offset : Nat) (text : String) :
    (listTokens json offset text).value = tokenListing json (tokensAt offset text) := by
  rw [listTokens, Logged.value_bind, Logged.value_bind, Logged.value_pure, Scanner.drain_tokens]
  rfl

/-- A value of a text's token is a single line just if the token holds no line break. -/
theorem forall_oneLine_value_iff :
    (∀ t ∈ tokensAt offset text, OneLine t.value) ↔ ∀ t ∈ tokensAt offset text, ¬ t.HoldsBreak := by
  refine forall₂_congr fun t ht => ?_
  obtain ⟨l, k, position, hform⟩ := exists_form_of_mem ht
  exact hform.oneLine_value_iff

/-- **The lines of a listing are those of the tokens just if no token holds a line break**, and just then there are as
many lines as tokens. A token holds a line break if it is a string that stands for one, or if it complains of a
backslash with a line break behind it. Two texts without such tokens have the same listing only if they have the same
tokens. -/
theorem listTokens_lines (offset : Nat) (text : String) (hne : tokensAt offset text ≠ []) :
    ((lines (listTokens false offset text).value).length = (tokensAt offset text).length ↔
        ∀ t ∈ tokensAt offset text, ¬ t.HoldsBreak) ∧
      (lines (listTokens false offset text).value =
          (tokensAt offset text).map (fun t => t.kind.name ++ ", " ++ toString t.position ++ ", " ++ t.value) ↔
        ∀ t ∈ tokensAt offset text, ¬ t.HoldsBreak) ∧
      ∀ (offset' : Nat) (text' : String), (∀ t ∈ tokensAt offset text, ¬ t.HoldsBreak) →
        (∀ t ∈ tokensAt offset' text', ¬ t.HoldsBreak) →
          (listTokens false offset text).value = (listTokens false offset' text').value →
            tokensAt offset text = tokensAt offset' text' := by
  rw [value_listTokens, ← forall_oneLine_value_iff]
  refine ⟨length_lines_tokenListing_eq_iff hne, lines_tokenListing_eq_iff hne, ?_⟩
  intro offset' text' hbreaks hbreaks' h
  rw [value_listTokens] at h
  rw [← forall_oneLine_value_iff] at hbreaks'
  exact tokenListing_inj hbreaks hbreaks' h

/-- A string that stands for a carriage return and an escape without a meaning, which are listed on a line each. -/
theorem listTokens_lines_return :
    tokensAt 3 "'a\\r' 'b\\c" ≠ [] ∧
      ((lines (listTokens false 3 "'a\\r' 'b\\c").value).length = (tokensAt 3 "'a\\r' 'b\\c").length ↔
          ∀ t ∈ tokensAt 3 "'a\\r' 'b\\c", ¬ t.HoldsBreak) ∧
        (lines (listTokens false 3 "'a\\r' 'b\\c").value =
            (tokensAt 3 "'a\\r' 'b\\c").map
              (fun t => t.kind.name ++ ", " ++ toString t.position ++ ", " ++ t.value) ↔
          ∀ t ∈ tokensAt 3 "'a\\r' 'b\\c", ¬ t.HoldsBreak) ∧
        ∀ (offset' : Nat) (text' : String), (∀ t ∈ tokensAt 3 "'a\\r' 'b\\c", ¬ t.HoldsBreak) →
          (∀ t ∈ tokensAt offset' text', ¬ t.HoldsBreak) →
            (listTokens false 3 "'a\\r' 'b\\c").value = (listTokens false offset' text').value →
              tokensAt 3 "'a\\r' 'b\\c" = tokensAt offset' text' := by
  have hne : tokensAt 3 "'a\\r' 'b\\c" ≠ [] := by decide +kernel
  exact ⟨hne, listTokens_lines 3 "'a\\r' 'b\\c" hne⟩

/-- A string over two lines is listed on two lines, and the second of them may be that of another token. So a text of
one token has the listing of a text of two. -/
theorem listTokens_breaks :
    (¬ ∀ (offset : Nat) (text : String), tokensAt offset text ≠ [] →
        (lines (listTokens false offset text).value).length = (tokensAt offset text).length) ∧
      ¬ ∀ (offset : Nat) (text : String) (offset' : Nat) (text' : String),
        tokensAt offset text ≠ [] → tokensAt offset' text' ≠ [] →
          (listTokens false offset text).value = (listTokens false offset' text').value →
            tokensAt offset text = tokensAt offset' text' := by
  have hone : tokensAt 0 "'a\nNull, 5, null'" = [⟨.string, 0, "a\nNull, 5, null"⟩] := by decide +kernel
  have htwo : tokensAt 0 "'a'  null" = [⟨.string, 0, "a"⟩, ⟨.null, 5, "null"⟩] := by decide +kernel
  have hlisting : tokenListing false [⟨.string, 0, "a\nNull, 5, null"⟩] =
      tokenListing false [⟨.string, 0, "a"⟩, ⟨.null, 5, "null"⟩] := by decide +kernel
  constructor
  · intro h
    have hlength := h 0 "'a\nNull, 5, null'" (by rw [hone]; exact List.cons_ne_nil _ _)
    rw [value_listTokens, hone] at hlength
    exact absurd hlength (by decide +kernel)
  · intro h
    have htokens := h 0 "'a\nNull, 5, null'" 0 "'a'  null" (by rw [hone]; exact List.cons_ne_nil _ _)
      (by rw [htwo]; exact List.cons_ne_nil _ _) (by rw [value_listTokens, value_listTokens, hone, htwo, hlisting])
    rw [hone, htwo] at htokens
    exact absurd (congrArg List.length htokens) (by decide)

end FilterLang
