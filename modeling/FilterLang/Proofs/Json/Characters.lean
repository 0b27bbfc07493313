import FilterLang.Json.Compact

/-!
# The characters of JSON text

A number is written with digits, signs, points and `e` (`numberText_int`, `numberText_real`), and
strings are escaped, so compact JSON text has no control characters at all (`printable_compact`). In particular it is a
single line.
-/

namespace FilterLang.Json

open FilterLang.Number

/-! ### Numbers -/

/-- A character that numbers are written with. -/
def IsNumberChar (c : Char) : Prop := c.isDigit = true ∨ c ∈ ['-', '+', '.', 'e']

instance (c : Char) : Decidable (IsNumberChar c) := inferInstanceAs (Decidable (_ ∨ _))

/-- Text that is made of such characters. -/
def NumberText (cs : List Char) : Prop := ∀ c ∈ cs, IsNumberChar c

@[simp] theorem numberText_nil : NumberText [] := fun _ hc => nomatch hc

@[simp] theorem numberText_cons {c : Char} {cs : List Char} :
    NumberText (c :: cs) ↔ IsNumberChar c ∧ NumberText cs := List.forall_mem_cons

@[simp] theorem numberText_append {cs ds : List Char} : NumberText (cs ++ ds) ↔ NumberText cs ∧ NumberText ds :=
  List.forall_mem_append

theorem NumberText.of_subset {cs ds : List Char} (h : NumberText ds) (hsub : cs ⊆ ds) : NumberText cs :=
  fun c hc => h c (hsub hc)

theorem numberText_nat (n : Nat) : NumberText (toString n).toList := by
  rw [show (toString n).toList = Nat.toDigits 10 n from String.toList_ofList]
  exact fun c hc => .inl (Nat.isDigit_of_mem_toDigits (by decide) (by decide) hc)

theorem numberText_int (n : Int) : NumberText (toString n).toList := by
  cases n with
  | ofNat n => exact numberText_nat n
  | negSucc n =>
    rw [show (toString (Int.negSucc n)).toList = '-' :: (toString (n + 1)).toList from String.toList_append]
    exact numberText_cons.mpr ⟨by decide, numberText_nat _⟩

theorem numberText_digitsOf (n : Nat) (grid : Int) : NumberText (Shortest.digitsOf n grid).digits := by
  refine (numberText_nat n).of_subset fun c hc => ?_
  rw [Shortest.digitsOf, Shortest.dropZeros, List.mem_reverse] at hc
  exact List.mem_reverse.mp ((List.dropWhile_sublist _).subset hc)

theorem numberText_onGrid? {d : Double} {grid : Int} {ds : Digits} (h : Shortest.onGrid? d grid = some ds) :
    NumberText ds.digits := by
  unfold Shortest.onGrid? at h
  dsimp only at h
  -- which numbers are tried makes no difference
  generalize (d.toRatio.scale 10 (-grid)).roundHalfEven = near at h
  generalize (if near = (d.toRatio.scale 10 (-grid)).floor then near + 1 else near - 1) = far at h
  split at h
  · cases h
    exact numberText_digitsOf _ _
  · split at h
    · cases h
      exact numberText_digitsOf _ _
    · cases h

theorem numberText_digits (d : Double) : NumberText (Shortest.digits d).digits := by
  rw [Shortest.digits]
  generalize hfound : (List.range Shortest.maxDigits).findSome? _ = found
  cases found with
  | none => exact numberText_digitsOf _ _
  | some ds =>
    obtain ⟨k, -, hk⟩ := List.exists_of_findSome?_eq_some hfound
    exact numberText_onGrid? hk

/-- No layout adds anything but zeros, a point, and an exponent. -/
theorem numberText_write {ds : Digits} (h : NumberText ds.digits) (layout : Layout) : NumberText (layout.write ds) := by
  have hzeros (n : Nat) : NumberText (Layout.zeros n) := fun c hc => by
    rw [(List.mem_replicate.mp hc).2]
    decide
  have htake (n : Nat) : NumberText (ds.digits.take n) := h.of_subset (List.take_subset _ _)
  have hdrop (n : Nat) : NumberText (ds.digits.drop n) := h.of_subset (List.drop_subset _ _)
  have hzero : IsNumberChar '0' := by decide
  have hpoint : IsNumberChar '.' := by decide
  unfold Layout.write
  split
  · unfold Layout.plain
    split
    · simp [hzero, hpoint, hzeros, h]
    · dsimp only
      split
      · simp [hzero, hpoint, hzeros, h]
      · simp [hpoint, htake, hdrop]
  · have hexponent : IsNumberChar 'e' := by decide
    have hpart : NumberText (if ds.digits.length ≤ 1 then [] else ['.']) := by split <;> simp [hpoint]
    have hsign : IsNumberChar (if ds.exponent < 0 then '-' else '+') := by split <;> decide
    simp only [Layout.scientific, numberText_append, numberText_cons]
    exact ⟨⟨⟨htake 1, hpart⟩, hdrop 1⟩, hexponent, hsign, numberText_nat _⟩

theorem numberText_real (negative : Bool) (magnitude : Double) : NumberText (realChars negative magnitude) := by
  have hdigits : NumberText
      (if magnitude.significand = 0 then ['0', '.', '0'] else layout.write (Shortest.digits magnitude)) := by
    have hzero : IsNumberChar '0' := by decide
    have hpoint : IsNumberChar '.' := by decide
    split
    · simp [hzero, hpoint]
    · exact numberText_write (numberText_digits magnitude) layout
  have hminus : IsNumberChar '-' := by decide
  unfold realChars
  dsimp only
  split
  · exact numberText_cons.mpr ⟨hminus, hdigits⟩
  · exact hdigits

/-! ### Control characters -/

/-- There is no control character in a text. -/
def Printable (cs : List Char) : Prop := ∀ c ∈ cs, 0x20 ≤ c.toNat

@[simp] theorem printable_nil : Printable [] := fun _ hc => nomatch hc

@[simp] theorem printable_cons {c : Char} {cs : List Char} : Printable (c :: cs) ↔ 0x20 ≤ c.toNat ∧ Printable cs :=
  List.forall_mem_cons

@[simp] theorem printable_append {cs ds : List Char} : Printable (cs ++ ds) ↔ Printable cs ∧ Printable ds :=
  List.forall_mem_append

/-- Printable text is a single line. -/
theorem Printable.no_break {cs : List Char} (h : Printable cs) : '\n' ∉ cs := fun hc =>
  absurd (h _ hc) (by decide)

theorem IsNumberChar.le_toNat {c : Char} (h : IsNumberChar c) : 0x20 ≤ c.toNat := by
  rcases h with h | h
  · exact Nat.le_trans (by decide) (Char.isDigit_iff_toNat.mp h).1
  · simp only [List.mem_cons, List.not_mem_nil, or_false] at h
    rcases h with rfl | rfl | rfl | rfl <;> decide

/-- Escaping leaves no control character. -/
theorem printable_escapeChar (c : Char) : Printable (escapeChar c) := by
  have hdigit : ∀ n < 16, 0x20 ≤ (Nat.digitChar n).toNat := by decide
  unfold escapeChar
  split
  case h_8 =>
    split
    · rename_i hc
      simp [hdigit (c.toNat / 16) (by omega), hdigit (c.toNat % 16) (by omega)]
    · rename_i hc
      simpa using hc
  all_goals simp

theorem printable_quoteOnto {text : String} {k : List Char} (hk : Printable k) : Printable (quoteOnto text k) := by
  have htext : Printable (text.toList.flatMap escapeChar) := by
    intro d hd
    obtain ⟨c, -, hc⟩ := List.mem_flatMap.mp hd
    exact printable_escapeChar c d hc
  simpa [quoteOnto, htext] using hk

mutual

/-- In front of printable text, the compact text of a value is printable. -/
theorem printable_compactOnto : ∀ (v : Json) {k : List Char}, Printable k → Printable (compactOnto v k)
  | .null, k, hk => by simpa [compactOnto] using hk
  | .bool true, k, hk => by simpa [compactOnto] using hk
  | .bool false, k, hk => by simpa [compactOnto] using hk
  | .integer value, k, hk => by
    rw [compactOnto]
    exact printable_append.mpr ⟨fun c hc => (numberText_int value c hc).le_toNat, hk⟩
  | .real negative magnitude, k, hk => by
    rw [compactOnto]
    exact printable_append.mpr ⟨fun c hc => (numberText_real negative magnitude c hc).le_toNat, hk⟩
  | .string value, k, hk => by
    rw [compactOnto]
    exact printable_quoteOnto hk
  | .array [], k, hk => by simpa [compactOnto] using hk
  | .array (e :: es), k, hk => by
    have hclose : Printable (']' :: k) := by simpa using hk
    simpa [compactOnto] using printable_compactOnto e (printable_compactElementsOnto es hclose)
  | .object [], k, hk => by simpa [compactOnto] using hk
  | .object ((name, value) :: ms), k, hk => by
    have hclose : Printable ('\x7d' :: k) := by simpa using hk
    have hvalue : Printable (':' :: compactOnto value (compactMembersOnto ms ('\x7d' :: k))) := by
      simpa using printable_compactOnto value (printable_compactMembersOnto ms hclose)
    simpa [compactOnto] using printable_quoteOnto hvalue

theorem printable_compactElementsOnto :
    ∀ (es : List Json) {k : List Char}, Printable k → Printable (compactElementsOnto es k)
  | [], k, hk => by simpa [compactElementsOnto] using hk
  | e :: es, k, hk => by
    simpa [compactElementsOnto] using printable_compactOnto e (printable_compactElementsOnto es hk)

theorem printable_compactMembersOnto :
    ∀ (ms : List (String × Json)) {k : List Char}, Printable k → Printable (compactMembersOnto ms k)
  | [], k, hk => by simpa [compactMembersOnto] using hk
  | (name, value) :: ms, k, hk => by
    have hvalue : Printable (':' :: compactOnto value (compactMembersOnto ms k)) := by
      simpa using printable_compactOnto value (printable_compactMembersOnto ms hk)
    simpa [compactMembersOnto] using printable_quoteOnto hvalue

end

/-- **Compact JSON text has no control characters**, and so it is a single line. -/
theorem printable_compact (v : Json) : Printable v.compact.toList := by
  rw [compact, String.toList_ofList]
  exact printable_compactOnto v printable_nil

end FilterLang.Json
