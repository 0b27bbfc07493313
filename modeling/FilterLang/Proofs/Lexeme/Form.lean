import FilterLang.Proofs.Lexeme.Written

/-!
# The forms of lexemes

What each class of lexeme looks like in the text, without saying how it is read. `Form l k position t` says that the
characters `l`, with `k` behind them, are a lexeme at this position, and that `t` is its token. A form says as much of
what follows as it takes for the lexeme to be over: no word goes on after a word, and no number after a number.

Reading a lexeme takes just the characters of its form (`formed_of_read`), and whatever has a form is read as the token
that the form tells (`Form.read`). A form depends on what follows by its first character only. So a lexeme is the same
in front of any text that is detached from it (`Form.append`), and where what follows is cut off (`Form.of_append`).
-/

namespace FilterLang

open FilterLang.Text

/-! ### Detached texts -/

/-- No word and no number in front of the text goes on with its first character. -/
def Detached (k : List Char) : Prop := ∀ c ∈ k.head?, inWord c = false ∧ c ≠ '.'

@[simp] theorem detached_cons_iff {c : Char} {k : List Char} : Detached (c :: k) ↔ inWord c = false ∧ c ≠ '.' := by
  simp [Detached]

/-- A class within the word characters does not hold what comes first. -/
theorem Detached.not_head {p : Char → Bool} {k : List Char} (hk : Detached k)
    (hp : ∀ c, p c = true → inWord c = true) : ∀ c ∈ k.head?, p c = false := by
  intro c hc
  rw [← Bool.not_eq_true]
  intro h
  have := (hk c hc).1
  rw [hp c h] at this
  cases this

/-! ### The bodies of strings -/

namespace Quoted

/-- Characters between quotes, and the characters that they stand for. -/
inductive Body : List Char → List Char → Prop where
  /-- Nothing. -/
  | nil : Body [] []
  /-- A character that stands for itself. -/
  | plain {c : Char} {cs value : List Char} : c ≠ '\'' → c ≠ '\\' → Body cs value → Body (c :: cs) (c :: value)
  /-- An escape that has a meaning. -/
  | escape {letter c : Char} {cs value : List Char} :
      unescape? letter = some c → Body cs value → Body ('\\' :: letter :: cs) (c :: value)

/-- What is read of a string that goes on with this after such a body. -/
def after (body value : List Char) : Quoted → Quoted
  | .closed contents length => .closed (value ++ contents) (length + body.length)
  | .badEscape c before => .badEscape c (before + body.length)
  | .unclosed dangling length => .unclosed dangling (length + body.length)

/-- The body of a string is read, and then what follows it. -/
theorem Body.read_append {body value : List Char} (h : Body body value) (k : List Char) :
    read (body ++ k) = (read k).after body value := by
  induction h with
  | nil => cases hk : read k <;> simp [after, hk]
  | plain hquote hslash _ ih =>
    rw [List.cons_append, read_plain hquote hslash, ih]
    cases read k <;> simp [after, cons, Nat.add_assoc]
  | escape hletter _ ih =>
    rw [List.cons_append, List.cons_append, read_escape hletter, ih]
    cases read k <;> simp [after, cons, Nat.add_assoc]

/-- A string is a body as far as it goes: until a quote, an escape without a meaning, or the end of the text, possibly
right after a backslash. -/
theorem exists_body (cs : List Char) :
    ∃ body value k, cs = body ++ k ∧ Body body value ∧
      ((∃ k', k = '\'' :: k') ∨ (∃ letter k', unescape? letter = none ∧ k = '\\' :: letter :: k') ∨
        k = [] ∨ k = ['\\']) := by
  fun_induction read cs with
  | case1 => exact ⟨[], [], [], rfl, .nil, .inr (.inr (.inl rfl))⟩
  | case2 cs => exact ⟨[], [], _, rfl, .nil, .inl ⟨cs, rfl⟩⟩
  | case3 => exact ⟨[], [], _, rfl, .nil, .inr (.inr (.inr rfl))⟩
  | case4 letter cs c hc ih =>
    obtain ⟨body, value, k, rfl, hbody, hk⟩ := ih
    exact ⟨'\\' :: letter :: body, c :: value, k, rfl, .escape hc hbody, hk⟩
  | case5 letter cs hc => exact ⟨[], [], _, rfl, .nil, .inr (.inl ⟨letter, cs, hc, rfl⟩)⟩
  | case6 c cs hquote hlast hslash ih =>
    obtain ⟨body, value, k, rfl, hbody, hk⟩ := ih
    exact ⟨c :: body, c :: value, k, rfl, .plain hquote (ne_backslash hlast hslash) hbody, hk⟩

theorem Body.read_closed {body value : List Char} (h : Body body value) (k : List Char) :
    read (body ++ '\'' :: k) = .closed value (body.length + 1) := by
  rw [h.read_append]
  simp [read, after, Nat.add_comm]

theorem Body.read_badEscape {body value : List Char} {letter : Char} (h : Body body value)
    (hletter : unescape? letter = none) (k : List Char) :
    read (body ++ '\\' :: letter :: k) = .badEscape letter body.length := by
  rw [h.read_append, Quoted.read_badEscape hletter, after, Nat.zero_add]

/-- A body with nothing behind it, or only a backslash, is the text of a string that is never closed. All of it is
taken. -/
theorem Body.read_unclosed {body value : List Char} (h : Body body value) (dangling : Bool) :
    let cs := body ++ if dangling then ['\\'] else []
    read cs = .unclosed dangling cs.length := by
  dsimp only
  rw [h.read_append]
  cases dangling <;> simp [read, after, Nat.add_comm]

/-- A string is never closed just if all of it is a body, possibly with a backslash at its end. It takes all that is
left of the text. -/
theorem read_eq_unclosed_iff {cs : List Char} {dangling : Bool} {length : Nat} :
    read cs = .unclosed dangling length ↔
      length = cs.length ∧ ∃ body value, Body body value ∧ cs = body ++ if dangling then ['\\'] else [] := by
  constructor
  · intro h
    obtain ⟨body, value, k, rfl, hbody, hk⟩ := exists_body cs
    rcases hk with ⟨k', rfl⟩ | ⟨letter, k', hletter, rfl⟩ | rfl | rfl
    · rw [hbody.read_closed] at h
      cases h
    · rw [hbody.read_badEscape hletter] at h
      cases h
    · cases (hbody.read_unclosed false).symm.trans h
      exact ⟨rfl, body, value, hbody, rfl⟩
    · cases (hbody.read_unclosed true).symm.trans h
      exact ⟨rfl, body, value, hbody, rfl⟩
  · rintro ⟨rfl, body, value, hbody, rfl⟩
    exact hbody.read_unclosed dangling

end Quoted

namespace Lexeme

/-! ### The classes of lexemes -/

/-- The kind of a word, by the tables of reserved words. -/
inductive WordKind : String → Token.Kind → Prop where
  /-- The missing value. -/
  | null : WordKind "null" .null
  /-- A truth value. -/
  | true : WordKind "true" .true
  /-- The other truth value. -/
  | false : WordKind "false" .false
  /-- An operator word. -/
  | operator {word : String} : word ∈ operatorWords → WordKind word .operator
  /-- A word without a meaning of its own. -/
  | identifier {word : String} : word ∉ reservedWords → WordKind word .identifier

/-- In front of this text, the character begins no lexeme that has a meaning. -/
structure Meaningless (c : Char) (k : List Char) : Prop where
  /-- It is no blank. -/
  blank : isBlank c = false
  /-- It begins no word. -/
  word : startsWord c = false
  /-- It begins no number as a digit, -/
  digit : c.isDigit = false
  /-- nor as a minus sign. -/
  minus : c = '-' → ∀ d ∈ k.head?, d.isDigit = false
  /-- It begins no string. -/
  quote : c ≠ '\''
  /-- It stands in front of no name. -/
  name : c = '@' → ∀ d ∈ k.head?, startsWord d = false
  /-- It is no token by itself. -/
  punctuation : c ∉ [',', '(', ')', '[', ']']

/-- The characters are a lexeme if this text follows, and this is its token if it starts at this position. -/
inductive Form : List Char → List Char → Nat → Token → Prop where
  /-- A bare word. -/
  | word {name k : List Char} {position : Nat} {kind : Token.Kind} :
      IsName name → (∀ c ∈ k.head?, inWord c = false) → WordKind (String.ofList name) kind →
        Form name k position ⟨kind, position, String.ofList name⟩
  /-- A name after `@`, reserved or not. -/
  | name {name k : List Char} {position : Nat} :
      IsName name → (∀ c ∈ k.head?, inWord c = false) →
        Form ('@' :: name) k position ⟨.identifier, position, String.ofList name⟩
  /-- A number without a point. -/
  | integer {digits k : List Char} {position : Nat} :
      IsInteger digits → (∀ c ∈ k.head?, c.isDigit = false ∧ c ≠ '.') →
        Form digits k position ⟨.integer, position, String.ofList digits⟩
  /-- A number with a point. -/
  | decimal {digits k : List Char} {position : Nat} :
      IsDecimal digits → (∀ c ∈ k.head?, c.isDigit = false) →
        Form digits k position ⟨.decimal, position, String.ofList digits⟩
  /-- A string that is closed. -/
  | string {body value k : List Char} {position : Nat} :
      Quoted.Body body value → Form ('\'' :: (body ++ ['\''])) k position ⟨.string, position, String.ofList value⟩
  /-- A character that is a token by itself. -/
  | punctuation {c : Char} {k : List Char} {position : Nat} {kind : Token.Kind} :
      (c, kind) ∈ [(',', Token.Kind.comma), ('(', .parenOpen), (')', .parenClose), ('[', .bracketOpen),
        (']', .bracketClose)] → Form [c] k position ⟨kind, position, String.ofList [c]⟩
  /-- A character without a meaning. -/
  | stray {c : Char} {k : List Char} {position : Nat} :
      Meaningless c k → Form [c] k position
        ⟨.invalid, position,
          "Unrecognized character '" ++ c.toString ++ "'" ++ (" at position " ++ toString (position + 1))⟩
  /-- A string that is cut short by an escape without a meaning, which its token points at. -/
  | badEscape {body value k : List Char} {letter : Char} {position : Nat} :
      Quoted.Body body value → unescape? letter = none → Form ('\'' :: (body ++ ['\\', letter])) k position
        ⟨.invalid, position + 1 + body.length,
          "Unrecognized escape sequence '\\" ++ letter.toString ++ "'" ++
            (" at position " ++ toString (position + 1 + body.length + 1))⟩

/-- What has a form is not empty. -/
theorem Form.ne_nil {l k : List Char} {position : Nat} {t : Token} (h : Form l k position t) : l ≠ [] := by
  cases h with
  | word hname => exact hname.ne_nil
  | integer hdigits => exact hdigits.ne_nil
  | decimal hdigits => exact hdigits.ne_nil
  | _ => exact List.cons_ne_nil _ _

/-- The kind of a bare word is that of the tables. -/
theorem wordKind_eq_iff {word : String} {kind : Token.Kind} :
    wordKind word.toList = kind ↔ WordKind word kind := by
  constructor
  · rintro rfl
    unfold wordKind
    rw [String.ofList_toList]
    split
    · exact .null
    · exact .true
    · exact .false
    · next hnull htrue hfalse =>
      split
      · next hop => exact .operator (List.contains_iff_mem.mp hop)
      · next hop =>
        refine .identifier ?_
        simp_all [isOperatorWord, reservedWords]
  · intro h
    cases h with
    | null => rfl
    | true => rfl
    | false => rfl
    | operator h => exact (isName_of_isOperatorWord (List.contains_iff_mem.mpr h)).2
    | identifier h => exact wordKind_eq_identifier (Bool.eq_false_iff.mpr fun hr => h (List.contains_iff_mem.mp hr))

theorem punctuation?_eq_some_iff {c : Char} {kind : Token.Kind} :
    punctuation? c = some kind ↔
      (c, kind) ∈ [(',', Token.Kind.comma), ('(', .parenOpen), (')', .parenClose), ('[', .bracketOpen),
        (']', .bracketClose)] := by
  constructor
  · intro h
    unfold punctuation? at h
    split at h <;> cases h <;> simp
  · intro h
    simp only [List.mem_cons, Prod.mk.injEq, List.not_mem_nil, or_false] at h
    rcases h with ⟨rfl, rfl⟩ | ⟨rfl, rfl⟩ | ⟨rfl, rfl⟩ | ⟨rfl, rfl⟩ | ⟨rfl, rfl⟩ <;> rfl

theorem punctuation?_eq_none_iff {c : Char} : punctuation? c = none ↔ c ∉ [',', '(', ')', '[', ']'] := by
  constructor
  · intro h hc
    simp only [List.mem_cons, List.not_mem_nil, or_false] at hc
    rcases hc with rfl | rfl | rfl | rfl | rfl <;> cases h
  · intro h
    unfold punctuation?
    split <;> simp_all

/-- A name is spelled as the kind of a bare word says. -/
theorem WordKind.spelled {word : String} {kind : Token.Kind} (h : WordKind word kind) (hword : IsName word.toList) :
    Spelled kind word.toList := by
  cases h with
  | identifier => exact hword
  | _ => trivial

/-- The token of a form is spelled as its kind says. -/
theorem Form.spelled {l k : List Char} {position : Nat} {t : Token} (h : Form l k position t) :
    Spelled t.kind t.value.toList := by
  cases h with
  | word hname _ hkind => exact hkind.spelled (by rwa [String.toList_ofList])
  | name hname => rwa [String.toList_ofList]
  | integer hdigits => rwa [String.toList_ofList]
  | decimal hdigits => rwa [String.toList_ofList]
  | string => trivial
  | punctuation hmem =>
    rw [← punctuation?_eq_some_iff] at hmem
    unfold punctuation? at hmem
    split at hmem <;> cases hmem <;> trivial
  | stray => trivial
  | badEscape => trivial

/-! ### What follows a lexeme -/

section Following

variable {l k q : List Char} {position : Nat} {t : Token}

/-- What a text begins with has a property if either of its parts can begin with such a character only. -/
theorem forall_head?_append {P : Char → Prop} (hk : ∀ c ∈ k.head?, P c) (hq : ∀ c ∈ q.head?, P c) :
    ∀ c ∈ (k ++ q).head?, P c := by
  cases k with
  | nil => exact hq
  | cons c k => exact hk

theorem forall_head?_of_append {P : Char → Prop} (h : ∀ c ∈ (k ++ q).head?, P c) : ∀ c ∈ k.head?, P c := by
  cases k with
  | nil => simp
  | cons c k => exact h

/-- A lexeme keeps its form if a text that is detached from it is put behind what follows. -/
theorem Form.append (h : Form l k position t) (hq : Detached q) : Form l (k ++ q) position t := by
  have hword : ∀ c ∈ q.head?, inWord c = false := hq.not_head fun _ => id
  have hdigit : ∀ c ∈ q.head?, c.isDigit = false := hq.not_head fun _ => inWord_of_isDigit
  have hstart : ∀ c ∈ q.head?, startsWord c = false := hq.not_head fun _ => inWord_of_startsWord
  have hpoint : ∀ c ∈ q.head?, c.isDigit = false ∧ c ≠ '.' := fun c hc => ⟨hdigit c hc, (hq c hc).2⟩
  cases h with
  | word hname hk hkind => exact .word hname (forall_head?_append hk hword) hkind
  | name hname hk => exact .name hname (forall_head?_append hk hword)
  | integer hdigits hk => exact .integer hdigits (forall_head?_append hk hpoint)
  | decimal hdigits hk => exact .decimal hdigits (forall_head?_append hk hdigit)
  | string hbody => exact .string hbody
  | punctuation hkind => exact .punctuation hkind
  | stray hc =>
    exact .stray ⟨hc.blank, hc.word, hc.digit, fun h => forall_head?_append (hc.minus h) hdigit, hc.quote,
      fun h => forall_head?_append (hc.name h) hstart, hc.punctuation⟩
  | badEscape hbody hletter => exact .badEscape hbody hletter

/-- A lexeme keeps its form if what follows is cut short. -/
theorem Form.of_append (h : Form l (k ++ q) position t) : Form l k position t := by
  cases h with
  | word hname hk hkind => exact .word hname (forall_head?_of_append hk) hkind
  | name hname hk => exact .name hname (forall_head?_of_append hk)
  | integer hdigits hk => exact .integer hdigits (forall_head?_of_append hk)
  | decimal hdigits hk => exact .decimal hdigits (forall_head?_of_append hk)
  | string hbody => exact .string hbody
  | punctuation hkind => exact .punctuation hkind
  | stray hc =>
    exact .stray ⟨hc.blank, hc.word, hc.digit, fun h => forall_head?_of_append (hc.minus h), hc.quote,
      fun h => forall_head?_of_append (hc.name h), hc.punctuation⟩
  | badEscape hbody hletter => exact .badEscape hbody hletter

end Following

/-! ### From a lexeme to its form -/

section Forms

variable {c : Char} {cs : List Char} {lexeme : Lexeme} {more : Nat}

/-- The characters of a lexeme that has been read, besides its first, have a form. -/
def Formed (c : Char) (cs : List Char) (lexeme : Lexeme) (more : Nat) : Prop :=
  ∃ l k, cs = l ++ k ∧ l.length = more ∧ ∀ position, Form (c :: l) k position (lexeme.token position)

theorem formed_of_readWord (hc : startsWord c = true) (h : readWord c cs = .lexeme lexeme more) :
    Formed c cs lexeme more := by
  obtain ⟨l, k, rfl, hl, hk⟩ := exists_run inWord cs
  rw [readWord_run hl hk] at h
  cases h
  have hkind : WordKind (String.ofList (c :: l)) (wordKind (c :: l)) :=
    wordKind_eq_iff.mp (by rw [String.toList_ofList])
  exact ⟨l, k, rfl, rfl, fun _ => .word ⟨hc, hl⟩ hk hkind⟩

theorem formed_of_readName (h : readName cs = .lexeme lexeme more) : Formed '@' cs lexeme more := by
  by_cases hstart : cs.head?.any startsWord = true
  · obtain ⟨l, k, rfl, hl, hk⟩ := exists_run inWord cs
    have hname : IsName l := by
      cases l with
      | nil =>
        cases k with
        | nil => cases hstart
        | cons d k =>
          have hd : inWord d = false := hk d rfl
          rw [inWord_of_startsWord hstart] at hd
          cases hd
      | cons d l => exact ⟨hstart, fun e he => hl e (List.mem_cons_of_mem d he)⟩
    rw [readName_run hname hk] at h
    cases h
    exact ⟨l, k, rfl, rfl, fun _ => .name hname hk⟩
  · have hhead : ∀ d ∈ cs.head?, startsWord d = false := by
      intro d hd
      simpa [Option.mem_def.mp hd] using hstart
    rw [readName_stray hhead] at h
    cases h
    refine ⟨[], cs, rfl, rfl, fun _ => .stray ?_⟩
    exact ⟨by decide, by decide, by decide, fun hat => absurd hat (by decide), by decide, fun _ => hhead, by decide⟩

theorem formed_of_readNumber (hc : c.isDigit = true ∨ c = '-' ∧ cs.head?.any Char.isDigit = true)
    (h : readNumber c cs = .lexeme lexeme more) : Formed c cs lexeme more := by
  obtain ⟨l, k, rfl, hl, hk⟩ := exists_run Char.isDigit cs
  have hinteger : IsInteger (c :: l) := by
    refine isInteger_cons_iff.mpr (hc.imp (fun hc => ⟨hc, hl⟩) fun ⟨hc, hhead⟩ => ⟨hc, ?_, hl⟩)
    rintro rfl
    cases k with
    | nil => cases hhead
    | cons d k =>
      have hd : d.isDigit = true := hhead
      rw [hk d rfl] at hd
      cases hd
  by_cases hpoint : ∃ k', k = '.' :: k'
  · obtain ⟨k', rfl⟩ := hpoint
    obtain ⟨l', k, rfl, hl', hk'⟩ := exists_run Char.isDigit k'
    rw [show l ++ '.' :: (l' ++ k) = l ++ '.' :: l' ++ k by simp, readNumber_decimal hl hl' hk'] at h
    cases h
    refine ⟨l ++ '.' :: l', k, by simp, rfl, fun _ => .decimal ?_ hk'⟩
    exact isDecimal_cons_iff.mpr ⟨l, l', hinteger, hl', rfl⟩
  · have hnone : ∀ d ∈ k.head?, d.isDigit = false ∧ d ≠ '.' := by
      intro d hd
      refine ⟨hk d hd, ?_⟩
      rintro rfl
      exact hpoint (List.head?_eq_some_iff.mp hd)
    rw [readNumber_integer hl hnone] at h
    cases h
    exact ⟨l, k, rfl, rfl, fun _ => .integer hinteger hnone⟩

theorem formed_of_readString (h : readString cs = .lexeme lexeme more) : Formed '\'' cs lexeme more := by
  obtain ⟨body, value, k, rfl, hbody, hk⟩ := Quoted.exists_body cs
  rcases hk with ⟨k, rfl⟩ | ⟨letter, k, hletter, rfl⟩ | rfl | rfl
  · rw [readString, hbody.read_closed] at h
    cases h
    exact ⟨body ++ ['\''], k, by simp, by simp, fun _ => .string hbody⟩
  · rw [readString, hbody.read_badEscape hletter] at h
    cases h
    exact ⟨body ++ ['\\', letter], k, by simp, by simp, fun _ => .badEscape hbody hletter⟩
  · rw [readString, show Quoted.read (body ++ []) = _ from hbody.read_unclosed false] at h
    cases h
  · rw [readString, show Quoted.read (body ++ ['\\']) = _ from hbody.read_unclosed true] at h
    cases h

/-- A string that is never closed takes all that is left. -/
theorem more_of_read_unterminated {dangling : Bool} (h : read c cs = .unterminated dangling more) :
    more = cs.length :=
  (Quoted.read_eq_unclosed_iff.mp (read_eq_unterminated_iff.mp h).2).1

/-- **A lexeme that is read has a form.** -/
theorem formed_of_read (hblank : isBlank c = false) (h : read c cs = .lexeme lexeme more) :
    Formed c cs lexeme more := by
  rcases read_cases c cs with ⟨rfl, hr⟩ | ⟨-, hc, hr⟩ | ⟨hc, hr⟩ | ⟨rfl, hr⟩ | ⟨kind, hkind, hr⟩ |
    ⟨⟨hat, hword, hdigit, hminus, hquote, hnone⟩, hr⟩ <;> rw [hr] at h
  · exact formed_of_readName h
  · exact formed_of_readWord hc h
  · exact formed_of_readNumber hc h
  · exact formed_of_readString h
  · cases h
    exact ⟨[], cs, rfl, rfl, fun _ => .punctuation (punctuation?_eq_some_iff.mp hkind)⟩
  · cases h
    have hhead : c = '-' → ∀ d ∈ cs.head?, d.isDigit = false := by
      intro hc d hd
      simpa [hc, Option.mem_def.mp hd] using hminus
    exact ⟨[], cs, rfl, rfl, fun _ =>
      .stray ⟨hblank, hword, hdigit, hhead, hquote, fun hc => absurd hc hat, punctuation?_eq_none_iff.mp hnone⟩⟩

end Forms

/-! ### From a form to the lexeme -/

theorem Meaningless.read {c : Char} {k : List Char} (h : Meaningless c k) :
    Lexeme.read c k = .lexeme (.stray c) 0 := by
  by_cases hat : c = '@'
  · subst hat
    rw [Lexeme.read, if_pos rfl, readName_stray (h.name rfl)]
  · have hminus : ¬(c = '-' ∧ k.head?.any Char.isDigit = true) := by
      rintro ⟨hc, hhead⟩
      obtain ⟨d, hd, hdigit⟩ := (Option.any_eq_true _ _).mp hhead
      rw [h.minus hc d hd] at hdigit
      cases hdigit
    rw [Lexeme.read, if_neg hat, if_neg (by simp [h.word]), if_neg (by simp [h.digit]), if_neg hminus,
      if_neg h.quote, punctuation?_eq_none_iff.mpr h.punctuation]

/-- **What has a form is read as its token.** -/
theorem Form.read {l k : List Char} {position : Nat} {t : Token} (h : Form l k position t) :
    ∃ c cs lexeme, l = c :: cs ∧ isBlank c = false ∧ Lexeme.read c (cs ++ k) = .lexeme lexeme cs.length ∧
      lexeme.token position = t := by
  cases h with
  | @word name k position kind hname hk hkind =>
    obtain ⟨c, cs, rfl⟩ := List.exists_cons_of_ne_nil hname.ne_nil
    have hread : wordKind (c :: cs) = kind := by
      rw [← String.toList_ofList (l := c :: cs)]
      exact wordKind_eq_iff.mpr hkind
    refine ⟨c, cs, .plain kind (c :: cs), rfl, not_isBlank_of_inWord (inWord_of_startsWord hname.1), ?_, rfl⟩
    rw [read_word hname hk, hread]
  | @name name k position hname hk =>
    exact ⟨'@', name, .plain .identifier name, rfl, by decide, read_at hname hk, rfl⟩
  | @integer digits k position hdigits hk =>
    obtain ⟨c, cs, rfl⟩ := List.exists_cons_of_ne_nil hdigits.ne_nil
    exact ⟨c, cs, .plain .integer (c :: cs), rfl, hdigits.not_isBlank, read_integer hdigits hk, rfl⟩
  | @decimal digits k position hdigits hk =>
    obtain ⟨c, cs, rfl⟩ := List.exists_cons_of_ne_nil hdigits.ne_nil
    exact ⟨c, cs, .plain .decimal (c :: cs), rfl, hdigits.not_isBlank, read_decimal hdigits hk, rfl⟩
  | @string body value k position hbody =>
    refine ⟨'\'', body ++ ['\''], .plain .string value, rfl, by decide, ?_, rfl⟩
    rw [List.append_assoc, List.singleton_append, read_quote, readString, hbody.read_closed]
    simp
  | @punctuation c k position kind hkind =>
    obtain ⟨hblank, hread⟩ := read_punctuation (punctuation?_eq_some_iff.mpr hkind) k
    exact ⟨c, [], .plain kind [c], rfl, hblank, hread, rfl⟩
  | @stray c k position hc => exact ⟨c, [], .stray c, rfl, hc.blank, hc.read, rfl⟩
  | @badEscape body value k letter position hbody hletter =>
    refine ⟨'\'', body ++ ['\\', letter], .badEscape letter body.length, rfl, by decide, ?_, rfl⟩
    rw [List.append_assoc, List.cons_append, List.singleton_append, read_quote, readString,
      hbody.read_badEscape hletter]
    simp

end Lexeme

end FilterLang
