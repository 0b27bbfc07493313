import FilterLang.Proofs.Scan.Shift

/-!
# Tokens written out

Every token of a text can be written out again. What `Token.display` writes need not be what was read: a name that is not
reserved loses its `@`, a string is escaped anew, and a word or a character of its own is written by its kind. By itself
it is still scanned as a token of the same kind and value (`Legible`), so tokens that are written one after the other, with
blanks between them, are read back, each where it stands (`tokens_spaced`).
-/

namespace FilterLang

open FilterLang.Text

/-! ### One token -/

namespace Token

/-- Written out by itself, wherever it stands, the token is scanned as one of its kind and value. -/
def Legible (t : Token) : Prop := ∀ position, Scan.Whole position t.display.toList [⟨t.kind, position, t.value⟩]

variable {t : Token}

/-- A name that is not reserved is written without `@`. -/
theorem display_identifier (hkind : t.kind = .identifier) (hreserved : isReservedWord t.value = false) :
    t.display = t.value := by
  simp [display, isReserved, hkind, hreserved]

/-- A reserved name is written with `@`. -/
theorem display_reserved (hkind : t.kind = .identifier) (hreserved : isReservedWord t.value = true) :
    t.display = "@" ++ t.value := by
  simp [display, isReserved, hkind, hreserved]

end Token

namespace Lexeme

variable {l k : List Char} {position : Nat} {t : Token}

/-- A bare word is written out as it is. -/
theorem WordKind.legible {word : String} {kind : Token.Kind} (h : WordKind word kind) (hword : IsName word.toList)
    (position : Nat) : Token.Legible ⟨kind, position, word⟩ := by
  have hdisplay : Token.display ⟨kind, position, word⟩ = word := by
    cases h with
    | null => rfl
    | true => rfl
    | false => rfl
    | operator => rfl
    | identifier hmem =>
      exact Token.display_identifier rfl (Bool.eq_false_iff.mpr fun hr => hmem (List.contains_iff_mem.mp hr))
  intro start
  rw [hdisplay]
  exact .word hword (wordKind_eq_iff.mpr h)

/-- Every token with a meaning can be written out. -/
theorem Form.legible (h : Form l k position t) (hkind : t.kind ≠ .invalid) : t.Legible := by
  cases h with
  | word hname _ hword => exact hword.legible (by rwa [String.toList_ofList]) position
  | @name name k position hname =>
    have hname' : IsName (String.ofList name).toList := by rwa [String.toList_ofList]
    by_cases hreserved : isReservedWord (String.ofList name) = true
    · intro start
      rw [Token.display_reserved rfl hreserved, String.toList_append]
      exact .reserved hname'
    · have hword : WordKind (String.ofList name) .identifier :=
        .identifier fun hmem => hreserved (List.contains_iff_mem.mpr hmem)
      exact hword.legible hname' position
  | integer hdigits =>
    have htext : IsInteger (String.ofList l).toList := by rwa [String.toList_ofList]
    exact fun _ => .integer htext
  | decimal hdigits =>
    have htext : IsDecimal (String.ofList l).toList := by rwa [String.toList_ofList]
    exact fun _ => .decimal htext
  | @string body value k position hbody =>
    intro start
    have hdisplay : (Token.display ⟨.string, position, String.ofList value⟩).toList =
        '\'' :: (escapeChars (String.ofList value).toList ++ ['\'']) := by
      simp [Token.display, escape]
    rw [hdisplay]
    exact .quoted _
  | @punctuation c k position kind hmem =>
    intro start
    have hpunctuation : punctuation? c = some kind := punctuation?_eq_some_iff.mpr hmem
    have hdisplay : (Token.display ⟨kind, position, String.ofList [c]⟩).toList = [c] := by
      simp only [List.mem_cons, Prod.mk.injEq, List.not_mem_nil, or_false] at hmem
      rcases hmem with ⟨rfl, rfl⟩ | ⟨rfl, rfl⟩ | ⟨rfl, rfl⟩ | ⟨rfl, rfl⟩ | ⟨rfl, rfl⟩ <;>
        simp [Token.display, Token.Kind.label]
    rw [hdisplay]
    exact .punctuation hpunctuation .nil
  | stray => exact absurd rfl hkind
  | badEscape => exact absurd rfl hkind

end Lexeme

/-- The tokens of a text can be written out, those aside that have no meaning. -/
theorem legible_of_mem_tokensAt {offset : Nat} {text : String} {t : Token} (ht : t ∈ tokensAt offset text)
    (hkind : t.kind ≠ .invalid) : t.Legible := by
  obtain ⟨l, k, position, hform⟩ := Scan.exists_form ht
  exact hform.legible hkind

/-! ### Tokens in a row -/

namespace Token

/-- Tokens written out one after the other, with the given gaps between them. Where the gaps run out, so do the tokens. -/
def spaced : List Token → List String → String
  | [], _ => ""
  | t :: _, [] => t.display
  | t :: ts, gap :: gaps => t.display ++ gap ++ spaced ts gaps

/-- What is written before the `i`th token: the tokens before it, each with the gap behind it. -/
def front (ts : List Token) (gaps : List String) (i : Nat) : String :=
  String.join ((List.zipWith (fun t gap => t.display ++ gap) ts gaps).take i)

variable {t : Token} {ts : List Token} {gap : String} {gaps : List String} {i : Nat}

@[simp] theorem front_zero : front ts gaps 0 = "" := rfl

theorem front_succ : front (t :: ts) (gap :: gaps) (i + 1) = t.display ++ gap ++ front ts gaps i := by
  simp [front]

/-- The `i`th token stands behind what is written before it. -/
theorem exists_spaced_eq (ht : ts[i]? = some t) (hcount : ts.length ≤ gaps.length + 1) :
    ∃ back, spaced ts gaps = front ts gaps i ++ t.display ++ back := by
  induction ts generalizing gaps i with
  | nil => simp at ht
  | cons s ts ih =>
    cases i with
    | zero =>
      cases ht
      cases gaps with
      | nil => exact ⟨"", by simp [spaced]⟩
      | cons gap gaps => exact ⟨gap ++ spaced ts gaps, by simp [spaced, String.append_assoc]⟩
    | succ i =>
      cases gaps with
      | nil =>
        have hnil : ts = [] := by simpa using hcount
        simp [hnil] at ht
      | cons gap gaps =>
        have ht' : ts[i]? = some t := by simpa using ht
        have hcount' : ts.length ≤ gaps.length + 1 := by simpa using hcount
        obtain ⟨back, hback⟩ := ih ht' hcount'
        exact ⟨back, by rw [spaced, front_succ, hback]; simp only [String.append_assoc]⟩

/-- Tokens that can be written out are read back, each where it stands. -/
theorem whole_spaced (hts : ∀ t ∈ ts, t.Legible) (hcount : ts.length ≤ gaps.length + 1)
    (hgaps : ∀ gap ∈ gaps, IsBlanks gap.toList) (position : Nat) :
    Scan.Whole position (spaced ts gaps).toList
      (ts.mapIdx fun i t => ⟨t.kind, position + (front ts gaps i).length, t.value⟩) := by
  induction ts generalizing gaps position with
  | nil => exact .nil
  | cons t ts ih =>
    rw [List.forall_mem_cons] at hts
    cases gaps with
    | nil =>
      have hnil : ts = [] := by simpa using hcount
      subst hnil
      exact hts.1 position
    | cons gap gaps =>
      rw [List.forall_mem_cons] at hgaps
      have hrest := ih hts.2 (by simpa using hcount) hgaps.2 (position + t.display.toList.length + gap.toList.length)
      have hblanks := Scan.Whole.blanks hgaps.1.2 hrest
      have hwhole := (hts.1 position).append (hgaps.1.detached _) hblanks
      simp only [String.length_toList] at hwhole
      rw [spaced, String.toList_append, String.toList_append, List.append_assoc, List.mapIdx_cons]
      simpa [front_succ, String.length_append, Nat.add_assoc] using hwhole

end Token

/-- **Writing tokens out and reading them again gives them back.** Take all tokens of a text, of which none is invalid,
and write them out in order with any blanks between them. The text has as many tokens, each of the same kind and value,
and reserved if it was; and its position is the number of characters written before it. -/
theorem tokens_spaced (offset : Nat) (text : String) (gaps : List String)
    (hvalid : ∀ t ∈ tokensAt offset text, t.kind ≠ .invalid)
    (hcount : gaps.length = (tokensAt offset text).length - 1) (hgaps : ∀ gap ∈ gaps, IsBlanks gap.toList) :
    let ts := tokensAt offset text
    let us := tokens (Token.spaced ts gaps)
    us.length = ts.length ∧ ∀ (i : Nat) (t : Token), ts[i]? = some t →
      ∃ u back, us[i]? = some u ∧ u.kind = t.kind ∧ u.value = t.value ∧ u.isReserved = t.isReserved ∧
        Token.spaced ts gaps = Token.front ts gaps i ++ t.display ++ back ∧
          u.position = (Token.front ts gaps i).length := by
  intro ts us
  have hlegible : ∀ t ∈ ts, t.Legible := fun t ht => legible_of_mem_tokensAt ht (hvalid t ht)
  have hlength : ts.length ≤ gaps.length + 1 := Nat.sub_le_iff_le_add.mp hcount.ge
  have hus : us = ts.mapIdx fun i t => ⟨t.kind, 0 + (Token.front ts gaps i).length, t.value⟩ := by
    have hwhole := Token.whole_spaced hlegible hlength hgaps 0
    show (scanAt 0 (Token.spaced ts gaps)).tokens = _
    rw [scanAt, hwhole]
  refine ⟨by rw [hus, List.length_mapIdx], fun i t ht => ?_⟩
  obtain ⟨back, hback⟩ := Token.exists_spaced_eq ht hlength
  have hu : us[i]? = some ⟨t.kind, 0 + (Token.front ts gaps i).length, t.value⟩ := by
    rw [hus, List.getElem?_mapIdx, ht, Option.map_some]
  exact ⟨_, back, hu, rfl, rfl, rfl, hback, Nat.zero_add _⟩

/-- A name that loses its `@` and one that keeps it, a string with a quote in it, and a decimal that ends in its point,
each on a line of its own. -/
theorem tokens_spaced_lines :
    let text := "@y @null in ['it\\'s',-2.]"
    let gaps := List.replicate 7 "\n "
    let ts := tokensAt 3 text
    let us := tokens (Token.spaced ts gaps)
    (∀ t ∈ ts, t.kind ≠ .invalid) ∧ gaps.length = ts.length - 1 ∧ (∀ gap ∈ gaps, IsBlanks gap.toList) ∧
      us.length = ts.length ∧ ∀ (i : Nat) (t : Token), ts[i]? = some t →
        ∃ u back, us[i]? = some u ∧ u.kind = t.kind ∧ u.value = t.value ∧ u.isReserved = t.isReserved ∧
          Token.spaced ts gaps = Token.front ts gaps i ++ t.display ++ back ∧
            u.position = (Token.front ts gaps i).length := by
  intro text gaps ts us
  have hts : ts = [⟨.identifier, 3, "y"⟩, ⟨.identifier, 6, "null"⟩, ⟨.operator, 12, "in"⟩, ⟨.bracketOpen, 15, "["⟩,
      ⟨.string, 16, "it's"⟩, ⟨.comma, 23, ","⟩, ⟨.decimal, 24, "-2."⟩, ⟨.bracketClose, 27, "]"⟩] := by decide +kernel
  have hvalid : ∀ t ∈ ts, t.kind ≠ .invalid := by
    rw [hts]
    decide
  have hcount : gaps.length = ts.length - 1 := by
    rw [hts]
    rfl
  have hgaps : ∀ gap ∈ gaps, IsBlanks gap.toList := by
    intro gap hgap
    rw [(List.mem_replicate.mp hgap).2]
    rw [show "\n ".toList = ['\n', ' '] from rfl, IsBlanks, List.forall_mem_cons, List.forall_mem_singleton]
    decide
  exact ⟨hvalid, hcount, hgaps, tokens_spaced 3 text gaps hvalid hcount hgaps⟩

end FilterLang
