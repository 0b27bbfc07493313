import FilterLang.Proofs.Scanner.Steps

/-!
# Reading with every addition made

A scanner works its positions out with machine words. It counts the characters that it passes, adds the count to the
offset of the text for the place of a character, and adds one to a place to tell it to users. This module goes through
a reading addition by addition.

## The model

`Tallied α` is a value together with the additions made on the way to it. The functions in its namespace do what those
of a scanner do, but pass one character at a time and make every addition; what comes of them is the same
(`Tallied.value_parse`). Every character is counted (`Tallied.count_mem_drain`), and the position of a token is the
result of an addition (`Tallied.exists_place_mem_drain`).

The additions are those that a scanner makes, and a few more. The place of a backslash is only needed where it begins
an escape, but here it is worked out for every backslash that is passed, also for the second one of an escaped
backslash and for one outside of all strings; and what stands before a bad escape is passed twice. So what holds of all
these additions holds of those that a scanner makes.
-/

namespace FilterLang

/-- An addition of machine words. -/
inductive Addition where
  /-- One more character after so many. -/
  | count (read : Nat)
  /-- The place of the character after so many others, in a text that starts at `offset`. -/
  | place (offset read : Nat)
  /-- The ordinal of a position. -/
  | ordinal (position : Nat)
  deriving DecidableEq, Repr

namespace Addition

/-- What comes of an addition. -/
def sum : Addition → Nat
  | count read => read + 1
  | place offset read => offset + read
  | ordinal position => position + 1

end Addition

/-- A value and the additions made on the way to it. -/
structure Tallied (α : Type) where
  /-- The value. -/
  value : α
  /-- The additions, in order. -/
  additions : List Addition
  deriving DecidableEq, Repr

namespace Tallied

variable {α β : Type}

/-- Goes on with the value, adding the additions that are made then. -/
def bind (x : Tallied α) (f : α → Tallied β) : Tallied β :=
  let y := f x.value
  ⟨y.value, x.additions ++ y.additions⟩

instance : Monad Tallied where
  pure value := ⟨value, []⟩
  bind := Tallied.bind

/-- Makes one addition. -/
def add (a : Addition) : Tallied Nat := ⟨a.sum, [a]⟩

/-- Makes one addition if it is called for. -/
def addIf (p : Prop) [Decidable p] (a : Addition) : Tallied Unit := ⟨(), if p then [a] else []⟩

@[simp] theorem value_pure (a : α) : (pure a : Tallied α).value = a := rfl

@[simp] theorem value_bind (x : Tallied α) (f : α → Tallied β) : (x >>= f).value = (f x.value).value := rfl

@[simp] theorem value_add (a : Addition) : (add a).value = a.sum := rfl

@[simp] theorem additions_bind (x : Tallied α) (f : α → Tallied β) :
    (x >>= f).additions = x.additions ++ (f x.value).additions := rfl

@[simp] theorem additions_add (a : Addition) : (add a).additions = [a] := rfl

/-! ### Scanning with additions -/

/-- The place of the character at hand. -/
def place (s : Scanner) : Tallied Nat := add (.place s.offset s.position)

/-- Passes `n` characters. The place of any backslash is worked out before it is passed. -/
def pass : Nat → Scanner → Tallied Scanner
  | 0, s => pure s
  | n + 1, s => do
    addIf (s.rest.head? = some '\\') (.place s.offset s.position)
    let read ← add (.count s.position)
    pass n ⟨s.offset, read, s.rest.drop 1⟩

/-- The words that tell users a position. -/
def placeSuffix (position : Nat) : Tallied String := do
  let ordinal ← add (.ordinal position)
  return " at position " ++ toString ordinal

/-- The token of the lexeme at hand, which starts at the given position. -/
def token (s : Scanner) (start : Nat) : Lexeme → Tallied Token
  | .plain kind value => pure ⟨kind, start, String.ofList value⟩
  | .stray c => do
    let ending ← placeSuffix start
    return ⟨.invalid, start, Lexeme.strayMessage c ++ ending⟩
  | .badEscape c before => do
    let s ← pass (before + 1) s
    let backslash ← place s
    let ending ← placeSuffix backslash
    return ⟨.invalid, backslash, Lexeme.badEscapeMessage c ++ ending⟩

/-- The next token, if there is one, and the scanner after it. Behind `@` and `-` the next character is looked at. -/
def next (s : Scanner) : Tallied (Option Token × Scanner) := do
  let s ← pass s.blanks s
  match s.rest with
  | [] => return (none, s)
  | c :: cs =>
    let start ← place s
    addIf (c = '@' ∨ c = '-') (.count s.position)
    match Lexeme.read c cs with
    | .lexeme lexeme more =>
      let t ← token s start lexeme
      let rest ← pass (more + 1) s
      return (some t, rest)
    | .unterminated dangling more =>
      let rest ← pass (more + 1) s
      addIf (dangling = false) (.ordinal start)
      return (none, rest)

theorem value_pass (n : Nat) (s : Scanner) : (pass n s).value = s.skip n := by
  induction n generalizing s with
  | zero => rfl
  | succ n ih =>
    rw [pass, value_bind, value_bind, ih]
    simp [Scanner.skip, Addition.sum, Nat.add_assoc, Nat.add_comm 1]

theorem value_token (s : Scanner) (lexeme : Lexeme) : (token s s.location lexeme).value = lexeme.token s.location := by
  cases lexeme with
  | plain | stray => rfl
  | badEscape c before =>
    have hplace : s.offset + (s.position + (before + 1)) = s.location + 1 + before := by
      simp only [Scanner.location]
      omega
    simp only [token, place, placeSuffix, value_bind, value_add, value_pass, value_pure, Addition.sum,
      Scanner.offset_skip, Scanner.position_skip, hplace, Lexeme.token, Lexeme.placeSuffix]

/-- With every addition made, a scanner finds the same next token. -/
theorem value_next (s : Scanner) : (next s).value = s.next := by
  have h := s.turn_next
  generalize s.next = found at h ⊢
  rw [next, value_bind, value_pass, ← Scanner.skipBlanks_eq_skip]
  cases h with
  | lexeme hrest hread =>
    rw [hrest]
    simp only [hread, value_bind, place, value_add, value_pass, value_pure]
    rw [show (Addition.place s.skipBlanks.offset s.skipBlanks.position).sum = s.skipBlanks.location from rfl,
      value_token]
  | unterminated hrest hread =>
    rw [hrest]
    simp only [hread, value_bind, value_pass, value_pure]
  | finished hrest =>
    rw [hrest]
    rfl

/-! ### A whole reading -/

/-- All tokens that are left. -/
def drain (s : Scanner) : Tallied (List Token) :=
  match h : (next s).value with
  | (none, _) => ⟨[], (next s).additions⟩
  | (some t, rest) =>
    have : rest.rest.length < s.rest.length := Scanner.length_lt_of_next (value_next s ▸ h)
    let more := drain rest
    ⟨t :: more.value, (next s).additions ++ more.additions⟩
termination_by s.rest.length

/-- The ordinals that diagnostics tell. The place that is taken off the value of an invalid token is such an ordinal as
well, of the same token. -/
def ordinals : List Diagnostic → Tallied (List Nat)
  | [] => return []
  | d :: ds => do
    let ordinal ← add (.ordinal d.token.position)
    let more ← ordinals ds
    return ordinal :: more

/-- Reads a text as an expression. If it is none, the ordinals that the diagnostics tell are worked out as well. -/
def parse (offset : Nat) (text : String) : Tallied (Except (Diagnostics × List Nat) Expr) := do
  let ts ← drain (Scanner.ofText offset text)
  match parseTokens offset ts with
  | .ok e => return .ok e
  | .error ds =>
    let told ← ordinals ds.toList
    return .error (ds, told)

theorem value_drain (s : Scanner) : (drain s).value = s.scan.tokens := by
  fun_induction drain s with
  | case1 s rest hnext =>
    rw [value_next] at hnext
    rw [(Scanner.tokens_of_next hnext).1]
  | case2 s t rest hnext _ more ih =>
    rw [value_next] at hnext
    rw [Scanner.scan_of_next hnext]
    exact congrArg (t :: ·) ih

theorem value_ordinals (ds : List Diagnostic) : (ordinals ds).value = ds.map Diagnostic.ordinal := by
  induction ds with
  | nil => rfl
  | cons d ds ih =>
    rw [ordinals, value_bind, value_bind, ih]
    rfl

theorem value_drain_ofText (offset : Nat) (text : String) :
    (drain (.ofText offset text)).value = tokensAt offset text := by
  rw [value_drain]
  rfl

/-- With every addition made, a reading comes out the same. -/
theorem value_parse (offset : Nat) (text : String) :
    (parse offset text).value =
      (parseAt offset text).mapError fun ds => (ds, ds.toList.map Diagnostic.ordinal) := by
  rw [parse, value_bind, value_drain_ofText, parseAt]
  cases parseTokens offset (tokensAt offset text) with
  | ok e => rfl
  | error ds =>
    dsimp only
    rw [value_bind, value_ordinals]
    rfl

/-! ### Which additions are made -/

section Made

variable {s rest : Scanner} {t : Token} {n read : Nat}

/-- Every character that is passed is counted. -/
theorem count_mem_pass (hlow : s.position ≤ read) (hhigh : read < s.position + n) :
    .count read ∈ (pass n s).additions := by
  induction n generalizing s with
  | zero => exact absurd hhigh (Nat.not_lt.mpr hlow)
  | succ n ih =>
    simp only [pass, additions_bind, additions_add, value_add, List.mem_append, List.mem_singleton]
    rcases Nat.eq_or_lt_of_le hlow with rfl | hlow
    · exact .inr (.inl rfl)
    · have hmore : .count read ∈ (pass n (s.skip 1)).additions := by
        refine ih hlow ?_
        rw [Scanner.position_skip]
        omega
      exact .inr (.inr hmore)

/-- Looking for the next token counts every character on the way. -/
theorem count_mem_next (hlow : s.position ≤ read) (hhigh : read < s.next.2.position) :
    .count read ∈ (next s).additions := by
  have hturn := s.turn_next
  generalize s.next = found at hturn hhigh
  rw [next, additions_bind, value_pass, ← Scanner.skipBlanks_eq_skip, List.mem_append]
  by_cases hblank : read < s.skipBlanks.position
  · rw [Scanner.skipBlanks_eq_skip, Scanner.position_skip] at hblank
    exact .inl (count_mem_pass hlow hblank)
  have hlow := Nat.not_lt.mp hblank
  right
  cases hturn with
  | lexeme hrest hread =>
    rw [hrest]
    simp only [hread, additions_bind, List.mem_append]
    exact .inr (.inr (.inr (.inl (count_mem_pass hlow hhigh))))
  | unterminated hrest hread =>
    rw [hrest]
    simp only [hread, additions_bind, List.mem_append]
    exact .inr (.inr (.inl (count_mem_pass hlow hhigh)))
  | finished hrest => exact absurd hhigh hblank

/-- The position of a token is the place of a character. -/
theorem exists_place_mem_next (h : s.next = (some t, rest)) :
    ∃ read, .place s.offset read ∈ (next s).additions ∧ t.position = s.offset + read := by
  have hturn := s.turn_next
  rw [h] at hturn
  rw [next, additions_bind, value_pass, ← Scanner.skipBlanks_eq_skip]
  cases hturn with
  | @lexeme c cs lexeme more hrest hread =>
    rw [hrest]
    simp only [hread, additions_bind, List.mem_append]
    cases lexeme with
    | plain | stray => exact ⟨s.skipBlanks.position, .inr (.inl (.head _)), rfl⟩
    | badEscape letter before =>
      refine ⟨s.skipBlanks.position + (before + 1), .inr (.inr (.inr (.inl ?_))), ?_⟩
      · simp only [token, place, additions_bind, value_pass, additions_add, List.mem_append]
        exact .inr (.inl (.head _))
      · simp only [Lexeme.token, Scanner.location]
        rw [Scanner.skipBlanks_eq_skip, Scanner.offset_skip]
        omega

/-- Scanning counts every character that is left. -/
theorem count_mem_drain (hlow : s.position ≤ read) (hhigh : read < s.position + s.rest.length) :
    .count read ∈ (drain s).additions := by
  fun_induction drain s with
  | case1 s rest hnext =>
    rw [value_next] at hnext
    refine count_mem_next hlow ?_
    rw [hnext, (Scanner.tokens_of_next hnext).2]
    exact hhigh
  | case2 s t rest hnext _ more ih =>
    rw [value_next] at hnext
    have hlength : rest.position + rest.rest.length = s.position + s.rest.length := by
      rw [← s.next_length_eq, hnext]
    rw [List.mem_append]
    by_cases hread : read < rest.position
    · exact .inl (count_mem_next hlow (by rwa [hnext]))
    · exact .inr (ih (Nat.not_lt.mp hread) (by omega))

/-- The positions of all tokens are places of characters. -/
theorem exists_place_mem_drain (ht : t ∈ s.scan.tokens) :
    ∃ read, .place s.offset read ∈ (drain s).additions ∧ t.position = s.offset + read := by
  fun_induction drain s with
  | case1 s rest hnext =>
    rw [value_next] at hnext
    rw [(Scanner.tokens_of_next hnext).1] at ht
    cases ht
  | case2 s u rest hnext _ more ih =>
    rw [value_next] at hnext
    rw [Scanner.scan_of_next hnext] at ht
    have hoffset : rest.offset = s.offset := by
      rw [← s.next_offset_eq, hnext]
    rcases List.mem_cons.mp ht with rfl | ht
    · obtain ⟨read, hread, hposition⟩ := exists_place_mem_next hnext
      exact ⟨read, List.mem_append_left _ hread, hposition⟩
    · obtain ⟨read, hread, hposition⟩ := ih ht
      rw [hoffset] at hread hposition
      exact ⟨read, List.mem_append_right _ hread, hposition⟩

theorem ordinal_mem_ordinals {ds : List Diagnostic} {d : Diagnostic} (hd : d ∈ ds) :
    .ordinal d.token.position ∈ (ordinals ds).additions := by
  induction ds with
  | nil => cases hd
  | cons e ds ih =>
    simp only [ordinals, additions_bind, additions_add, List.mem_append, List.mem_singleton]
    rcases List.mem_cons.mp hd with rfl | hd
    · exact .inl rfl
    · exact .inr (.inl (ih hd))

/-- A reading makes the additions of the scan. -/
theorem mem_parse_of_mem_drain {offset : Nat} {text : String} {a : Addition}
    (ha : a ∈ (drain (.ofText offset text)).additions) : a ∈ (parse offset text).additions :=
  List.mem_append_left _ ha

/-- A reading that fails works out the ordinals that are told. -/
theorem ordinal_mem_parse {offset : Nat} {text : String} {ds : Diagnostics} {d : Diagnostic}
    (h : parseAt offset text = .error ds) (hd : d ∈ ds.toList) :
    .ordinal d.token.position ∈ (parse offset text).additions := by
  rw [parse, additions_bind, value_drain_ofText]
  rw [parseAt] at h
  rw [h]
  exact List.mem_append_right _ (List.mem_append_left _ (ordinal_mem_ordinals hd))

end Made

end Tallied

end FilterLang
