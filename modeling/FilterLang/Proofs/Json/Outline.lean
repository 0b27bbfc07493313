import FilterLang.Proofs.Json.Characters
import FilterLang.Proofs.Text.Spelling

/-!
# What compact JSON text tells

The text of a value tells where the value ends and of what parts it is made: `null`, the truth values and the numbers
are words, which go on until a mark, strings end in the first quote that is not escaped, and arrays and objects in their
bracket. So two values with the same text have the same outline (`outline_eq_of_compact_eq`). An outline holds all of a value
except that of a number it holds the text only.
-/

namespace FilterLang.Json

/-! ### Outlines -/

/-- What the text of a value tells about it. -/
inductive Outline where
  /-- `null`, a truth value or a number, as it is written. -/
  | word (text : List Char)
  /-- A string. -/
  | string (value : String)
  /-- An array. -/
  | array (elements : List Outline)
  /-- An object. -/
  | object (members : List (String × Outline))

mutual

/-- The outline of a value. -/
def outline : Json → Outline
  | .null => .word "null".toList
  | .bool value => .word (if value then "true" else "false").toList
  | .integer value => .word (toString value).toList
  | .real negative magnitude => .word (realChars negative magnitude)
  | .string value => .string value
  | .array es => .array (outlineAll es)
  | .object ms => .object (outlineMembers ms)

/-- The outlines of several values. -/
def outlineAll : List Json → List Outline
  | [] => []
  | e :: es => outline e :: outlineAll es

/-- The outlines of members. -/
def outlineMembers : List (String × Json) → List (String × Outline)
  | [] => []
  | (name, value) :: ms => (name, outline value) :: outlineMembers ms

end

/-! ### Strings -/

/-- The value of a hexadecimal digit. -/
def hexValue (c : Char) : Nat := if c.isDigit then c.toNat - '0'.toNat else c.toNat - 'a'.toNat + 10

/-- Reads what follows a backslash. -/
def readEscape : List Char → Option (Char × List Char)
  | 'b' :: k => some ('\x08', k)
  | 'f' :: k => some ('\x0c', k)
  | 'n' :: k => some ('\n', k)
  | 'r' :: k => some ('\r', k)
  | 't' :: k => some ('\t', k)
  | 'u' :: '0' :: '0' :: high :: low :: k => some (Char.ofNat (16 * hexValue high + hexValue low), k)
  | c :: k => some (c, k)
  | [] => none

/-- Reads the character, possibly escaped, that a text begins with. -/
def readChar : List Char → Option (Char × List Char)
  | '\\' :: k => readEscape k
  | c :: k => some (c, k)
  | [] => none

/-- A character is read back from what is written for it. -/
theorem readChar_escapeChar (c : Char) (k : List Char) : readChar (escapeChar c ++ k) = some (c, k) := by
  have hhex : ∀ n < 16, hexValue (Nat.digitChar n) = n := by decide
  unfold escapeChar
  split
  case h_8 hslash _ _ _ _ _ =>
    split
    · rename_i hc
      have hcode : 16 * (c.toNat / 16) + c.toNat % 16 = c.toNat := Nat.div_add_mod _ _
      simp only [List.cons_append, List.nil_append, readChar, readEscape]
      rw [hhex _ (by omega), hhex _ (by omega), hcode, Char.ofNat_toNat]
    · rw [List.cons_append, List.nil_append, readChar]
      exact hslash
  all_goals rfl

/-- No character is written so that it begins with a quote. -/
theorem escapeChar_append_ne_quote (c : Char) (k k' : List Char) : escapeChar c ++ k ≠ '"' :: k' := by
  intro h
  have hread := readChar_escapeChar c k
  rw [h] at hread
  cases hread
  cases h

theorem escapeChars_unique {cs cs' k k' : List Char}
    (h : cs.flatMap escapeChar ++ '"' :: k = cs'.flatMap escapeChar ++ '"' :: k') : cs = cs' ∧ k = k' := by
  induction cs generalizing cs' with
  | nil =>
    cases cs' with
    | nil => exact ⟨rfl, (List.cons.inj h).2⟩
    | cons c' cs' =>
      rw [List.flatMap_cons, List.append_assoc] at h
      exact absurd h.symm (escapeChar_append_ne_quote _ _ _)
  | cons c cs ih =>
    rw [List.flatMap_cons, List.append_assoc] at h
    cases cs' with
    | nil => exact absurd h (escapeChar_append_ne_quote _ _ _)
    | cons c' cs' =>
      rw [List.flatMap_cons, List.append_assoc] at h
      have hread := congrArg readChar h
      rw [readChar_escapeChar, readChar_escapeChar] at hread
      obtain ⟨rfl, hrest⟩ := Prod.mk.inj (Option.some.inj hread)
      obtain ⟨rfl, hk⟩ := ih hrest
      exact ⟨rfl, hk⟩

/-- A quoted string tells its contents and where it ends. -/
theorem quoteOnto_unique {s s' : String} {k k' : List Char} (h : quoteOnto s k = quoteOnto s' k') : s = s' ∧ k = k' := by
  obtain ⟨hs, hk⟩ := escapeChars_unique (List.cons.inj h).2
  exact ⟨String.toList_injective hs, hk⟩

/-! ### Words -/

/-- A character that divides JSON text. -/
def isMark (c : Char) : Bool := c ∈ ['"', ',', '[', ']', '\x7b', '\x7d']

/-- The text of a value may be over here: it ends, or an element, a member or the end of an array or object follows. -/
def Over (k : List Char) : Prop := ∀ c ∈ k.head?, c ∈ [',', ']', '\x7d']

/-- The value is written as a word, whatever follows. -/
structure IsWord (v : Json) (text : List Char) : Prop where
  /-- The word is its outline, -/
  outline : v.outline = .word text
  /-- and its text. -/
  compactOnto : ∀ k, v.compactOnto k = text ++ k
  /-- The word is not empty. -/
  ne_nil : text ≠ []
  /-- There is no mark in it. -/
  noMark : ∀ c ∈ text, isMark c = false

theorem IsNumberChar.noMark {c : Char} (h : IsNumberChar c) : isMark c = false := by
  rcases h with h | h
  · rw [← Bool.not_eq_true]
    intro hmark
    simp only [isMark, List.mem_cons, List.not_mem_nil, or_false, decide_eq_true_eq] at hmark
    rcases hmark with rfl | rfl | rfl | rfl | rfl | rfl <;> exact absurd h (by decide)
  · simp only [List.mem_cons, List.not_mem_nil, or_false] at h
    rcases h with rfl | rfl | rfl | rfl <;> decide

theorem isWord_null : IsWord .null "null".toList :=
  ⟨by rw [Json.outline], fun _ => by rw [Json.compactOnto], by decide, by simp [isMark]⟩

theorem isWord_bool (value : Bool) : IsWord (.bool value) (if value then "true" else "false").toList :=
  ⟨by rw [Json.outline], fun _ => by rw [Json.compactOnto], by cases value <;> decide, by cases value <;> simp [isMark]⟩

theorem write_ne_nil (layout : Number.Layout) (ds : Number.Digits) : layout.write ds ≠ [] := by
  have hplain : Number.Layout.plain ds ≠ [] := by
    unfold Number.Layout.plain
    split
    · simp
    · dsimp only
      split <;> simp
  have hscientific : Number.Layout.scientific ds ≠ [] := by simp [Number.Layout.scientific]
  unfold Number.Layout.write
  split
  · exact hplain
  · exact hscientific

theorem realChars_ne_nil (negative : Bool) (magnitude : Number.Double) : realChars negative magnitude ≠ [] := by
  unfold realChars
  dsimp only
  split
  · exact List.cons_ne_nil _ _
  · split
    · exact List.cons_ne_nil _ _
    · exact write_ne_nil _ _

theorem isWord_integer (value : Int) : IsWord (.integer value) (toString value).toList := by
  refine ⟨by rw [Json.outline], fun _ => by rw [Json.compactOnto], ?_, fun c hc => (numberText_int value c hc).noMark⟩
  cases value with
  | ofNat n =>
    rw [show (toString (Int.ofNat n)).toList = Nat.toDigits 10 n from String.toList_ofList]
    exact Nat.toDigits_ne_nil
  | negSucc n =>
    rw [show (toString (Int.negSucc n)).toList = '-' :: (toString (n + 1)).toList from String.toList_append]
    exact List.cons_ne_nil _ _

theorem isWord_real (negative : Bool) (magnitude : Number.Double) :
    IsWord (.real negative magnitude) (realChars negative magnitude) :=
  ⟨by rw [Json.outline], fun _ => by rw [Json.compactOnto], realChars_ne_nil negative magnitude,
    fun c hc => (numberText_real negative magnitude c hc).noMark⟩

/-! ### What a value begins with -/

/-- The mark that a value begins with, unless it is a word. -/
def mark? : Json → Option Char
  | .string _ => some '"'
  | .array _ => some '['
  | .object _ => some '\x7b'
  | _ => none

theorem exists_isWord {v : Json} (h : v.mark? = none) : ∃ text, IsWord v text := by
  cases v with
  | null => exact ⟨_, isWord_null⟩
  | bool value => exact ⟨_, isWord_bool value⟩
  | integer value => exact ⟨_, isWord_integer value⟩
  | real negative magnitude => exact ⟨_, isWord_real negative magnitude⟩
  | _ => cases h

/-- The mark is told by the first character of the text. -/
theorem compactOnto_eq_cons (v : Json) (k : List Char) :
    ∃ c r, v.compactOnto k = c :: r ∧ v.mark? = if isMark c then some c else none := by
  by_cases hword : v.mark? = none
  · obtain ⟨text, h⟩ := exists_isWord hword
    obtain ⟨c, cs, rfl⟩ := List.exists_cons_of_ne_nil h.ne_nil
    exact ⟨c, cs ++ k, h.compactOnto k, by rw [hword, h.noMark c List.mem_cons_self, if_neg Bool.false_ne_true]⟩
  · cases v with
    | string s => exact ⟨'"', _, by rw [compactOnto, quoteOnto], rfl⟩
    | array es => cases es <;> exact ⟨'[', _, by rw [compactOnto], rfl⟩
    | object ms =>
      cases ms with
      | nil => exact ⟨'\x7b', _, by rw [compactOnto], rfl⟩
      | cons m ms => exact ⟨'\x7b', _, by rw [compactOnto], rfl⟩
    | _ => exact absurd rfl hword

theorem mark?_unique {v v' : Json} {k k' : List Char} (h : v.compactOnto k = v'.compactOnto k') :
    v.mark? = v'.mark? := by
  obtain ⟨c, r, hv, hmark⟩ := compactOnto_eq_cons v k
  obtain ⟨c', r', hv', hmark'⟩ := compactOnto_eq_cons v' k'
  rw [hv, hv'] at h
  rw [hmark, hmark', (List.cons.inj h).1]

/-- No value begins as if it were over. -/
theorem not_over (v : Json) (k : List Char) : ¬ Over (v.compactOnto k) := by
  intro hover
  obtain ⟨c, r, hv, hmark⟩ := compactOnto_eq_cons v k
  rw [hv] at hover
  have hc : c ∈ [',', ']', '\x7d'] := hover c rfl
  simp only [List.mem_cons, List.not_mem_nil, or_false] at hc
  rcases hc with rfl | rfl | rfl <;> cases v <;> cases hmark

/-! ### What the text of a value tells -/

theorem over_nil : Over [] := by simp [Over]

theorem over_cons_iff {c : Char} {k : List Char} : Over (c :: k) ↔ c ∈ [',', ']', '\x7d'] := by simp [Over]

theorem over_elements (es : List Json) (k : List Char) : Over (compactElementsOnto es (']' :: k)) := by
  cases es <;> rw [compactElementsOnto, over_cons_iff] <;> decide

theorem over_members (ms : List (String × Json)) (k : List Char) : Over (compactMembersOnto ms ('\x7d' :: k)) := by
  cases ms <;> rw [compactMembersOnto, over_cons_iff] <;> decide

/-- A word is told by the text, if it is over where the value is. -/
theorem IsWord.unique {v v' : Json} {text k k' : List Char} (hword : IsWord v text) (hk : Over k) (hk' : Over k')
    (h : v.compactOnto k = v'.compactOnto k') : v.outline = v'.outline ∧ k = k' := by
  have hnone : v.mark? = none := by
    have := hword.outline
    cases v <;> first | rfl | (rw [Json.outline] at this; cases this)
  obtain ⟨text', hword'⟩ := exists_isWord ((mark?_unique h).symm.trans hnone)
  have hover : ∀ {k}, Over k → ∀ c ∈ k.head?, (!isMark c) = false := by
    intro k hk c hc
    have := hk c hc
    simp only [List.mem_cons, List.not_mem_nil, or_false] at this
    rcases this with rfl | rfl | rfl <;> rfl
  have hnoMark : ∀ {v text}, IsWord v text → ∀ c ∈ text, (!isMark c) = true := fun hword c hc => by
    rw [hword.noMark c hc, Bool.not_false]
  rw [hword.compactOnto, hword'.compactOnto] at h
  obtain ⟨rfl, hk⟩ := Text.run_unique (hnoMark hword) (hover hk) (hnoMark hword') (hover hk') h
  exact ⟨hword.outline.trans hword'.outline.symm, hk⟩

mutual

/-- The text of a value tells its outline, and where it ends. -/
theorem compactOnto_unique : ∀ (v v' : Json) {k k' : List Char}, Over k → Over k' →
    v.compactOnto k = v'.compactOnto k' → v.outline = v'.outline ∧ k = k'
  | .null, v', k, k', hk, hk', h => isWord_null.unique hk hk' h
  | .bool value, v', k, k', hk, hk', h => (isWord_bool value).unique hk hk' h
  | .integer value, v', k, k', hk, hk', h => (isWord_integer value).unique hk hk' h
  | .real negative magnitude, v', k, k', hk, hk', h => (isWord_real negative magnitude).unique hk hk' h
  | .string s, v', k, k', hk, hk', h => by
    cases v' with
    | string s' =>
      rw [compactOnto, compactOnto] at h
      obtain ⟨rfl, hk⟩ := quoteOnto_unique h
      exact ⟨rfl, hk⟩
    | _ => cases mark?_unique h
  | .array [], v', k, k', hk, hk', h => by
    cases v' with
    | array es' =>
      cases es' with
      | nil =>
        rw [compactOnto, compactOnto] at h
        exact ⟨rfl, by simpa using h⟩
      | cons e' es' =>
        rw [compactOnto, compactOnto] at h
        have hover : Over (']' :: k) := over_cons_iff.mpr (by decide)
        rw [(List.cons.inj h).2] at hover
        exact absurd hover (not_over _ _)
    | _ => cases mark?_unique h
  | .array (e :: es), v', k, k', hk, hk', h => by
    cases v' with
    | array es' =>
      cases es' with
      | nil =>
        rw [compactOnto, compactOnto] at h
        have hover : Over (']' :: k') := over_cons_iff.mpr (by decide)
        rw [← (List.cons.inj h).2] at hover
        exact absurd hover (not_over _ _)
      | cons e' es' =>
        rw [compactOnto, compactOnto] at h
        -- the first element is told as the others are, which have a comma in front
        have helements : compactElementsOnto (e :: es) (']' :: k) = compactElementsOnto (e' :: es') (']' :: k') := by
          rw [compactElementsOnto, compactElementsOnto, (List.cons.inj h).2]
        obtain ⟨hes, hk⟩ := compactElementsOnto_unique (e :: es) (e' :: es') helements
        exact ⟨by rw [outline, outline, hes], hk⟩
    | _ => cases mark?_unique h
  | .object [], v', k, k', hk, hk', h => by
    cases v' with
    | object ms' =>
      cases ms' with
      | nil =>
        rw [compactOnto, compactOnto] at h
        exact ⟨rfl, by simpa using h⟩
      | cons m' ms' =>
        rw [compactOnto, compactOnto, quoteOnto] at h
        cases (List.cons.inj h).2
    | _ => cases mark?_unique h
  | .object ((name, value) :: ms), v', k, k', hk, hk', h => by
    cases v' with
    | object ms' =>
      cases ms' with
      | nil =>
        rw [compactOnto, compactOnto, quoteOnto] at h
        cases (List.cons.inj h).2
      | cons m' ms' =>
        obtain ⟨name', value'⟩ := m'
        rw [compactOnto, compactOnto] at h
        have hmembers : compactMembersOnto ((name, value) :: ms) ('\x7d' :: k) =
            compactMembersOnto ((name', value') :: ms') ('\x7d' :: k') := by
          rw [compactMembersOnto, compactMembersOnto, (List.cons.inj h).2]
        obtain ⟨hms, hk⟩ := compactMembersOnto_unique ((name, value) :: ms) ((name', value') :: ms') hmembers
        exact ⟨by rw [outline, outline, hms], hk⟩
    | _ => cases mark?_unique h

/-- Further elements are told by the text up to the bracket that closes the array. -/
theorem compactElementsOnto_unique : ∀ (es es' : List Json) {k k' : List Char},
    compactElementsOnto es (']' :: k) = compactElementsOnto es' (']' :: k') →
      outlineAll es = outlineAll es' ∧ k = k'
  | [], [], k, k', h => ⟨rfl, by simpa [compactElementsOnto] using h⟩
  | [], e' :: es', k, k', h => by simp [compactElementsOnto] at h
  | e :: es, [], k, k', h => by simp [compactElementsOnto] at h
  | e :: es, e' :: es', k, k', h => by
    rw [compactElementsOnto, compactElementsOnto] at h
    obtain ⟨he, hes⟩ := compactOnto_unique e e' (over_elements es k) (over_elements es' k') (List.cons.inj h).2
    obtain ⟨hes, hk⟩ := compactElementsOnto_unique es es' hes
    exact ⟨by simp only [outlineAll, he, hes], hk⟩

/-- Further members are told by the text up to the brace that closes the object. -/
theorem compactMembersOnto_unique : ∀ (ms ms' : List (String × Json)) {k k' : List Char},
    compactMembersOnto ms ('\x7d' :: k) = compactMembersOnto ms' ('\x7d' :: k') →
      outlineMembers ms = outlineMembers ms' ∧ k = k'
  | [], [], k, k', h => ⟨rfl, by simpa [compactMembersOnto] using h⟩
  | [], (name', value') :: ms', k, k', h => by simp [compactMembersOnto] at h
  | (name, value) :: ms, [], k, k', h => by simp [compactMembersOnto] at h
  | (name, value) :: ms, (name', value') :: ms', k, k', h => by
    rw [compactMembersOnto, compactMembersOnto] at h
    obtain ⟨rfl, hvalue⟩ := quoteOnto_unique (List.cons.inj h).2
    obtain ⟨hvalue, hms⟩ :=
      compactOnto_unique value value' (over_members ms k) (over_members ms' k') (List.cons.inj hvalue).2
    obtain ⟨hms, hk⟩ := compactMembersOnto_unique ms ms' hms
    exact ⟨by simp only [outlineMembers, hvalue, hms], hk⟩

end

/-- **The compact text of a value tells its outline.** -/
theorem outline_eq_of_compact_eq {v v' : Json} (h : v.compact = v'.compact) : v.outline = v'.outline :=
  (compactOnto_unique v v' over_nil over_nil (String.ofList_injective h)).1

end FilterLang.Json
