import FilterLang.Proofs.Grammar.Place
import FilterLang.Proofs.Scanner.Tallied

/-!
# The additions behind positions

An addition is `InText` if it is about a place in the text. A scanner that is somewhere in the text makes only such
additions when it looks for the next token (`Tallied.inText_next`), and so does a whole reading
(`Tallied.inText_parse`). So none of them overflows (`Addition.InText.sum_lt`).
-/

namespace FilterLang

namespace Addition

/-- The addition is about a place in a text of so many characters, or about the start of an empty one. -/
def InText (offset length : Nat) : Addition → Prop
  | count read => read < length
  | place start read => start = offset ∧ read < length
  | ordinal position => offset ≤ position ∧ position < offset + max length 1

/-- An addition about a place in a text does not overflow if there is a word for the place behind the text. -/
theorem InText.sum_lt {offset length bound : Nat} {a : Addition} (ha : a.InText offset length)
    (h : offset + length + 1 < bound) : a.sum < bound := by
  cases a with
  | count read =>
    simp only [InText] at ha
    simp only [sum]
    omega
  | place start read =>
    obtain ⟨rfl, hread⟩ := ha
    simp only [sum]
    omega
  | ordinal position =>
    simp only [InText] at ha
    simp only [sum]
    omega

end Addition

namespace Tallied

variable {α β : Type}

/-- All additions are about places in the text. -/
def InText (offset length : Nat) (x : Tallied α) : Prop := ∀ a ∈ x.additions, a.InText offset length

section InText

variable {offset length : Nat} {a : Addition}

theorem inText_pure (b : α) : InText offset length (pure b : Tallied α) := fun _ ha => nomatch ha

theorem inText_add (ha : a.InText offset length) : (add a).InText offset length := by
  simpa [InText, add] using ha

theorem inText_addIf {p : Prop} [Decidable p] (ha : p → a.InText offset length) :
    (addIf p a).InText offset length := by
  by_cases hp : p
  · simpa [InText, addIf, hp] using ha hp
  · simp [InText, addIf, hp]

theorem InText.bind {x : Tallied α} {f : α → Tallied β} (hx : x.InText offset length)
    (hf : (f x.value).InText offset length) : (x >>= f).InText offset length := by
  intro a ha
  rcases List.mem_append.mp ha with ha | ha
  · exact hx a ha
  · exact hf a ha

end InText

/-! ### Every addition of a step is about a place in the text -/

section Bounds

variable {s : Scanner} {c : Char} {cs text : List Char} {offset n : Nat}

theorem inText_count_of_on (h : s.On offset text) (hrest : s.rest ≠ []) :
    (Addition.count s.position).InText offset text.length := by
  have := h.length_eq
  have := List.length_pos_iff.mpr hrest
  simp only [Addition.InText]
  omega

theorem inText_place_of_on (h : s.On offset text) (hrest : s.rest ≠ []) :
    (Addition.place s.offset s.position).InText offset text.length :=
  ⟨h.offset_eq, inText_count_of_on h hrest⟩

theorem inText_ordinal_of_on (h : s.On offset text) (hrest : s.rest ≠ []) :
    (Addition.ordinal s.location).InText offset text.length := by
  have hcount := inText_count_of_on h hrest
  have hoffset := h.offset_eq
  simp only [Addition.InText, Scanner.location] at hcount ⊢
  omega

theorem inText_pass (h : s.On offset text) (hn : n ≤ s.rest.length) : (pass n s).InText offset text.length := by
  induction n generalizing s with
  | zero => exact inText_pure _
  | succ n ih =>
    have hne : s.rest ≠ [] := List.ne_nil_of_length_pos (Nat.lt_of_lt_of_le n.succ_pos hn)
    have hmore : (pass n (s.skip 1)).InText offset text.length := by
      refine ih (h.skip (Nat.le_trans (Nat.le_add_left 1 n) hn)) ?_
      rw [Scanner.rest_skip, List.length_drop]
      omega
    exact (inText_addIf fun _ => inText_place_of_on h hne).bind ((inText_add (inText_count_of_on h hne)).bind hmore)

theorem inText_placeSuffix (h : s.On offset text) (hrest : s.rest ≠ []) :
    (placeSuffix s.location).InText offset text.length :=
  (inText_add (inText_ordinal_of_on h hrest)).bind (inText_pure _)

/-- The backslash of a bad escape is within its lexeme. -/
theorem inText_token (h : s.On offset text) (hrest : s.rest = c :: cs) {lexeme : Lexeme} {more : Nat}
    (hblank : Text.isBlank c = false) (hread : Lexeme.read c cs = .lexeme lexeme more) :
    (token s s.location lexeme).InText offset text.length := by
  have hne : s.rest ≠ [] := by simp [hrest]
  cases lexeme with
  | plain => exact inText_pure _
  | stray => exact (inText_placeSuffix h hne).bind (inText_pure _)
  | badEscape letter before =>
    -- the token of a bad escape stands at its backslash, which is within the lexeme
    have hbefore : before + 1 < s.rest.length := by
      obtain ⟨l, k, rfl, -, hform⟩ := Lexeme.formed_of_read hblank hread
      have := (hform 0).position_bounds
      simp only [Lexeme.token, hrest, List.length_cons, List.length_append] at this ⊢
      omega
    have hon : (s.skip (before + 1)).On offset text := h.skip (Nat.le_of_lt hbefore)
    have hskip : (s.skip (before + 1)).rest ≠ [] := by
      rw [Scanner.rest_skip, Ne, List.drop_eq_nil_iff]
      omega
    refine (inText_pass h (Nat.le_of_lt hbefore)).bind ?_
    rw [value_pass]
    exact (inText_add (inText_place_of_on hon hskip)).bind ((inText_placeSuffix hon hskip).bind (inText_pure _))

/-- Looking for the next token makes only additions about places in the text. -/
theorem inText_next (h : s.On offset text) : (next s).InText offset text.length := by
  have hon := h.skipBlanks
  refine (inText_pass h s.blanks_le).bind ?_
  rw [value_pass, ← Scanner.skipBlanks_eq_skip]
  have hturn := s.turn_next
  generalize s.next = found at hturn
  cases hturn with
  | @lexeme c cs lexeme more hrest hread =>
    have hne : s.skipBlanks.rest ≠ [] := by simp [hrest]
    have hmore : more + 1 ≤ s.skipBlanks.rest.length := by
      have := Scanner.more_le_of_read hrest hread
      rw [Scanner.skipBlanks_eq_skip, Scanner.rest_skip, List.length_drop]
      omega
    have htoken := inText_token hon hrest (Scanner.not_isBlank_of_skipBlanks hrest) hread
    rw [hrest]
    simp only [hread]
    refine (inText_add (inText_place_of_on hon hne)).bind ?_
    refine (inText_addIf fun _ => inText_count_of_on hon hne).bind ?_
    exact htoken.bind ((inText_pass hon hmore).bind (inText_pure _))
  | unterminated hrest hread =>
    have hne : s.skipBlanks.rest ≠ [] := by simp [hrest]
    have hmore := Nat.le_of_eq (Scanner.more_eq_of_read_unterminated hrest hread)
    have hordinal := inText_ordinal_of_on hon hne
    rw [hrest]
    simp only [hread]
    refine (inText_add (inText_place_of_on hon hne)).bind ?_
    refine (inText_addIf fun _ => inText_count_of_on hon hne).bind ?_
    exact (inText_pass hon hmore).bind ((inText_addIf fun _ => hordinal).bind (inText_pure _))
  | finished hrest =>
    rw [hrest]
    exact inText_pure _

end Bounds

/-! ### A whole reading -/

theorem inText_drain {s : Scanner} {offset : Nat} {text : List Char} (h : s.On offset text) :
    (drain s).InText offset text.length := by
  fun_induction drain s with
  | case1 s rest hnext => exact inText_next h
  | case2 s t rest hnext this more ih =>
    have hon := h.next
    rw [← value_next, hnext] at hon
    intro a ha
    rcases List.mem_append.mp ha with ha | ha
    · exact inText_next h a ha
    · exact ih hon a ha

theorem inText_ordinals {offset length : Nat} {ds : List Diagnostic}
    (h : ∀ d ∈ ds, (Addition.ordinal d.token.position).InText offset length) :
    (ordinals ds).InText offset length := by
  induction ds with
  | nil => exact inText_pure _
  | cons d ds ih =>
    obtain ⟨hd, hds⟩ := List.forall_mem_cons.mp h
    exact (inText_add hd).bind ((ih hds).bind (inText_pure _))

/-- A reading makes only additions about places in the text. -/
theorem inText_parse (offset : Nat) (text : String) : (parse offset text).InText offset text.length := by
  have hdrain := inText_drain (Scanner.on_ofText offset text)
  rw [String.length_toList] at hdrain
  refine hdrain.bind ?_
  rw [value_drain_ofText]
  cases hparse : parseTokens offset (tokensAt offset text) with
  | ok e => exact inText_pure _
  | error ds =>
    obtain ⟨d, rfl, -, hd⟩ := exists_diagnostic_of_parseAt hparse
    exact (inText_ordinals (List.forall_mem_singleton.mpr hd)).bind (inText_pure _)

end Tallied

/-- **Reading a text works positions out within the text, and no addition on the way overflows a machine word**, if
there is a word for the place behind the text. The tokens stand within the text, each further on than the one before.
If the text is no expression there is one diagnostic, about a token or about the start of a text without any, and its
ordinal counts within the text. The additions are those that count every character of the text, those that give places
in the text, those of the tokens among them, and those that give ordinals. -/
theorem parseAt_inRange (offset : Nat) (text : String) (h : offset + text.length + 1 < Nat.pow 2 64) :
    let made := (Tallied.parse offset text).additions
    (∀ t ∈ tokensAt offset text, offset ≤ t.position ∧ t.position < offset + text.length) ∧
      (tokensAt offset text).Pairwise (fun t u => t.position < u.position) ∧
      (∀ ds, parseAt offset text = .error ds → ∃ d, ds = .singleton d ∧
        (d.token ∈ tokensAt offset text ∨ tokensAt offset text = [] ∧ d.token = .startOfInput offset) ∧
        offset + 1 ≤ d.ordinal ∧ d.ordinal ≤ offset + max text.length 1 ∧ .ordinal d.token.position ∈ made) ∧
      (Tallied.parse offset text).value =
        (parseAt offset text).mapError (fun ds => (ds, ds.toList.map Diagnostic.ordinal)) ∧
      (∀ read, .count read ∈ made ↔ read < text.length) ∧
      (∀ t ∈ tokensAt offset text, ∃ read, .place offset read ∈ made ∧ t.position = offset + read) ∧
      (∀ start read, .place start read ∈ made → offset ≤ start + read ∧ start + read < offset + text.length) ∧
      ∀ a ∈ made, a.sum < Nat.pow 2 64 := by
  intro made
  have hmunch := Scan.munch_ofChars offset text.toList
  have hmade : ∀ a ∈ made, a.InText offset text.length := Tallied.inText_parse offset text
  refine ⟨?_, hmunch.sorted, ?_, Tallied.value_parse offset text, ?_, ?_, ?_, fun a ha => (hmade a ha).sum_lt h⟩
  · rw [← String.length_toList]
    exact hmunch.position_bounds
  · intro ds hds
    obtain ⟨d, rfl, htoken, hle, hlt⟩ := exists_diagnostic_of_parseAt hds
    exact ⟨d, rfl, htoken, Nat.succ_le_succ hle, hlt, Tallied.ordinal_mem_parse hds (.head _)⟩
  · intro read
    refine ⟨hmade _, fun hread => Tallied.mem_parse_of_mem_drain (Tallied.count_mem_drain (Nat.zero_le _) ?_)⟩
    rw [Scanner.ofText, String.length_toList, Nat.zero_add]
    exact hread
  · intro t ht
    obtain ⟨read, hread, hposition⟩ := Tallied.exists_place_mem_drain (s := .ofText offset text) ht
    exact ⟨read, Tallied.mem_parse_of_mem_drain hread, hposition⟩
  · intro start read hread
    obtain ⟨rfl, hlt⟩ := hmade _ hread
    omega

/-- A bad escape a few places before the largest machine word. -/
theorem parseAt_inRange_badEscape :
    let offset := Nat.pow 2 64 - 12
    let text := "a eq 'b\\x'"
    let d : Diagnostic :=
      ⟨⟨.invalid, Nat.pow 2 64 - 5, "Unrecognized escape sequence '\\x' at position 18446744073709551612"⟩,
        "Unexpected token '<INVALID>': Unrecognized escape sequence '\\x'"⟩
    offset + text.length + 1 < Nat.pow 2 64 ∧ parseAt offset text = .error (.singleton d) ∧
      d.ordinal ≤ offset + max text.length 1 ∧ ∀ a ∈ (Tallied.parse offset text).additions, a.sum < Nat.pow 2 64 := by
  intro offset text d
  have hlength : offset + text.length + 1 < Nat.pow 2 64 := by decide
  have htokens : tokensAt offset text =
      [⟨.identifier, Nat.pow 2 64 - 12, "a"⟩, ⟨.operator, Nat.pow 2 64 - 10, "eq"⟩, d.token] := by decide +kernel
  have hsentence (m n p : Nat) (value : String) :
      Parse.sentence [⟨.identifier, m, "a"⟩, ⟨.operator, n, "eq"⟩, ⟨.invalid, p, value⟩] =
        .error (.unexpected ⟨.invalid, p, value⟩, [⟨.invalid, p, value⟩]) := by cbv
  have hmessage : (Fault.unexpected d.token).message = d.message := by decide +kernel
  have hparse : parseAt offset text = .error (.singleton d) := by
    rw [parseAt, htokens]
    exact Grammar.parseTokens_eq_error_iff.mpr ⟨_, _, hsentence _ _ _ _, by rw [hmessage]; rfl⟩
  obtain ⟨-, -, hfailed, -, -, -, -, hsum⟩ := parseAt_inRange offset text hlength
  obtain ⟨d', hd, -, -, hle, -⟩ := hfailed _ hparse
  obtain rfl : d = d' := congrArg Diagnostics.first hd
  exact ⟨hlength, hparse, hle, hsum⟩

end FilterLang
