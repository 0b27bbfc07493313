import FilterLang.Expr.Json
import FilterLang.Proofs.Json.Characters

/-!
# The layout of JSON text

Pretty JSON text is compact JSON text with spaces and line breaks between its parts. Spaces and line breaks may also
stand in strings, where they mean something, so it takes a walk through the text to tell which of them are layout: a
quote opens a string literal, the next quote that has no backslash before it closes it, and a backslash takes the
character behind it along (`Place.next`).

What a walk passes over in the pretty text of a value is the compact text (`dropLayout_prettyOnto`), so both are texts of
the same document (`prettyJson_withoutLayout`).
-/

namespace FilterLang.Json

/-! ### Walking through JSON text -/

/-- Where a character of JSON text stands. -/
inductive Place where
  /-- Outside of all string literals. -/
  | outside
  /-- In a string literal, or at its end. -/
  | literal
  /-- In a string literal, right behind a backslash that takes it along. -/
  | escaped
  deriving DecidableEq, Repr

/-- Where the character behind this one stands. -/
def Place.next : Place → Char → Place
  | .outside, c => if c = '"' then .literal else .outside
  | .literal, c => if c = '"' then .outside else if c = '\\' then .escaped else .literal
  | .escaped, _ => .literal

/-- A space or a line break that is in no string literal. -/
def Place.isLayout (place : Place) (c : Char) : Bool := place = .outside ∧ (c = ' ' ∨ c = '\n')

/-- The characters without layout. The first of them stands at the given place. -/
def dropLayout : Place → List Char → List Char
  | _, [] => []
  | place, c :: cs => if place.isLayout c then dropLayout (place.next c) cs else c :: dropLayout (place.next c) cs

/-- JSON text without the spaces and line breaks that are in no string literal. -/
def withoutLayout (text : String) : String := String.ofList (dropLayout .outside text.toList)

/-! ### Layout, and what is none -/

/-- A character that is no layout, and after which the walk stays outside. -/
def IsPlain (c : Char) : Prop := c ≠ '"' ∧ c ≠ ' ' ∧ c ≠ '\n'

instance (c : Char) : Decidable (IsPlain c) := inferInstanceAs (Decidable (_ ∧ _))

theorem dropLayout_plain {c : Char} (hc : IsPlain c) (k : List Char) :
    dropLayout .outside (c :: k) = c :: dropLayout .outside k := by
  simp [dropLayout, Place.isLayout, Place.next, hc.1, hc.2.1, hc.2.2]

theorem dropLayout_plain_append {cs : List Char} (hcs : ∀ c ∈ cs, IsPlain c) (k : List Char) :
    dropLayout .outside (cs ++ k) = cs ++ dropLayout .outside k := by
  induction cs with
  | nil => rfl
  | cons c cs ih =>
    obtain ⟨hc, hcs⟩ := List.forall_mem_cons.mp hcs
    rw [List.cons_append, dropLayout_plain hc, ih hcs, List.cons_append]

@[simp] theorem dropLayout_space (k : List Char) : dropLayout .outside (' ' :: k) = dropLayout .outside k := rfl

/-- A new line is layout, with the spaces at its front. -/
@[simp] theorem dropLayout_lineOnto (level : Nat) (k : List Char) :
    dropLayout .outside (lineOnto level k) = dropLayout .outside k := by
  have hspaces (n : Nat) : dropLayout .outside (List.replicate n ' ' ++ k) = dropLayout .outside k := by
    induction n with
    | zero => rfl
    | succ n ih => rw [List.replicate_succ, List.cons_append, dropLayout_space, ih]
  exact hspaces (2 * level)

/-- In a literal every character is kept. One that needs a backslash has one. -/
theorem dropLayout_escapeChar (c : Char) (k : List Char) :
    dropLayout .literal (escapeChar c ++ k) = escapeChar c ++ dropLayout .literal k := by
  have hliteral : ∀ {c : Char}, c ≠ '"' → c ≠ '\\' → ∀ k,
      dropLayout .literal (c :: k) = c :: dropLayout .literal k := by
    intro c hquote hslash k
    simp [dropLayout, Place.isLayout, Place.next, hquote, hslash]
  have hescaped : ∀ c k, dropLayout .literal ('\\' :: c :: k) = '\\' :: c :: dropLayout .literal k := fun _ _ => rfl
  have hdigit : ∀ n < 16, Nat.digitChar n ≠ '"' ∧ Nat.digitChar n ≠ '\\' := by decide
  unfold escapeChar
  split
  case h_8 hquote hslash _ _ _ _ _ =>
    split
    · rename_i hcode
      obtain ⟨hquote₁, hslash₁⟩ := hdigit (c.toNat / 16) (by omega)
      obtain ⟨hquote₂, hslash₂⟩ := hdigit (c.toNat % 16) (by omega)
      simp only [List.cons_append, List.nil_append]
      rw [hescaped, hliteral (by decide) (by decide), hliteral (by decide) (by decide), hliteral hquote₁ hslash₁,
        hliteral hquote₂ hslash₂]
    · exact hliteral hquote hslash k
  all_goals exact hescaped _ k

/-- A string literal is kept as it is, and the walk goes on outside of it. -/
@[simp] theorem dropLayout_quoteOnto (text : String) (k : List Char) :
    dropLayout .outside (quoteOnto text k) = quoteOnto text (dropLayout .outside k) := by
  have hcontents (cs : List Char) :
      dropLayout .literal (cs.flatMap escapeChar ++ '"' :: k) = cs.flatMap escapeChar ++ '"' :: dropLayout .outside k := by
    induction cs with
    | nil => rfl
    | cons c cs ih => rw [List.flatMap_cons, List.append_assoc, dropLayout_escapeChar, ih, List.append_assoc]
  exact congrArg ('"' :: ·) (hcontents text.toList)

/-! ### The two texts of a value -/

theorem IsNumberChar.isPlain {c : Char} (h : IsNumberChar c) : IsPlain c := by
  rcases h with h | h
  · refine ⟨?_, ?_, ?_⟩ <;> rintro rfl <;> exact absurd h (by decide)
  · simp only [List.mem_cons, List.not_mem_nil, or_false] at h
    rcases h with rfl | rfl | rfl | rfl <;> decide

theorem NumberText.isPlain {cs : List Char} (h : NumberText cs) : ∀ c ∈ cs, IsPlain c := fun c hc => (h c hc).isPlain

theorem isPlain_mark {c : Char} (hc : c ∈ [',', ':', '[', ']', '\x7b', '\x7d']) : IsPlain c := by
  simp only [List.mem_cons, List.not_mem_nil, or_false] at hc
  rcases hc with rfl | rfl | rfl | rfl | rfl | rfl <;> decide

@[simp] theorem dropLayout_mark {c : Char} (hc : c ∈ [',', ':', '[', ']', '\x7b', '\x7d']) (k : List Char) :
    dropLayout .outside (c :: k) = c :: dropLayout .outside k := dropLayout_plain (isPlain_mark hc) k

mutual

/-- The pretty text of a value without layout is its compact text, at every level. -/
theorem dropLayout_prettyOnto : ∀ (v : Json) (level : Nat) (k : List Char),
    dropLayout .outside (prettyOnto level v k) = compactOnto v (dropLayout .outside k)
  | .null, level, k => by
    rw [prettyOnto, compactOnto]
    exact dropLayout_plain_append (by simp [IsPlain]) k
  | .bool value, level, k => by
    rw [prettyOnto, compactOnto]
    exact dropLayout_plain_append (by cases value <;> simp [IsPlain]) k
  | .integer value, level, k => by
    rw [prettyOnto, compactOnto]
    exact dropLayout_plain_append (numberText_int value).isPlain k
  | .real negative magnitude, level, k => by
    rw [prettyOnto, compactOnto]
    exact dropLayout_plain_append (numberText_real negative magnitude).isPlain k
  | .string value, level, k => by rw [prettyOnto, compactOnto, dropLayout_quoteOnto]
  | .array [], level, k => by simp [prettyOnto, compactOnto]
  | .array (e :: es), level, k => by
    simp [prettyOnto, compactOnto, dropLayout_prettyOnto e, dropLayout_prettyElementsOnto es]
  | .object [], level, k => by simp [prettyOnto, compactOnto]
  | .object ((name, value) :: ms), level, k => by
    simp [prettyOnto, compactOnto, dropLayout_prettyOnto value, dropLayout_prettyMembersOnto ms]

theorem dropLayout_prettyElementsOnto : ∀ (es : List Json) (level : Nat) (k : List Char),
    dropLayout .outside (prettyElementsOnto level es k) = compactElementsOnto es (dropLayout .outside k)
  | [], level, k => by rw [prettyElementsOnto, compactElementsOnto]
  | e :: es, level, k => by
    simp [prettyElementsOnto, compactElementsOnto, dropLayout_prettyOnto e, dropLayout_prettyElementsOnto es]

theorem dropLayout_prettyMembersOnto : ∀ (ms : List (String × Json)) (level : Nat) (k : List Char),
    dropLayout .outside (prettyMembersOnto level ms k) = compactMembersOnto ms (dropLayout .outside k)
  | [], level, k => by rw [prettyMembersOnto, compactMembersOnto]
  | (name, value) :: ms, level, k => by
    simp [prettyMembersOnto, compactMembersOnto, dropLayout_prettyOnto value, dropLayout_prettyMembersOnto ms]

end

/-- The pretty text of a value without layout is its compact text. -/
theorem pretty_withoutLayout (v : Json) : withoutLayout v.pretty = v.compact := by
  rw [withoutLayout, pretty, String.toList_ofList, dropLayout_prettyOnto, compact]
  rfl

example : withoutLayout "[\n  \"a \\\" b\",\n  1\n]" = "[\"a \\\" b\",1]" := by cbv

end FilterLang.Json

namespace FilterLang.Expr

/-- **Pretty and compact JSON are texts of one document**: without the spaces and line breaks outside of its string
literals, the pretty JSON text of an expression is the compact one. -/
theorem prettyJson_withoutLayout (e : Expr) : Json.withoutLayout e.prettyJson = e.compactJson :=
  Json.pretty_withoutLayout e.toJson

end FilterLang.Expr
