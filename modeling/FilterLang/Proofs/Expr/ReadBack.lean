import FilterLang.Expr.Canonical
import FilterLang.Proofs.Expr.Spells
import FilterLang.Proofs.Expr.WellFormed

/-!
# Reading canonical text back

The canonical text of a well-formed expression is scanned to its end, and its tokens derive the expression as a primary
(`WellFormed.readsBack`). So reading it gives the very same tree. What a text is read as is well-formed, and so it is
read back from its canonical text: two trees that texts are read as are the same if their canonical texts are.
-/

namespace FilterLang

open FilterLang.Text FilterLang.Grammar

namespace Expr

/-- Wherever it stands, the canonical text is scanned to its end, and its tokens derive the expression. -/
def ReadsBack (e : Expr) : Prop :=
  ∀ position, ∃ ts, Scan.Whole position (canonicalOnto e []) ts ∧ Derives .primary ts e

/-! ### Leaves -/

theorem readsBack_of_leaf {e : Expr} {kind : Token.Kind} {value : String}
    (hleaf : ∀ position, Leaf ⟨kind, position, value⟩ e)
    (hscan : ∀ position, Scan.Whole position (canonicalOnto e []) [⟨kind, position, value⟩]) : ReadsBack e :=
  fun position => ⟨_, hscan position, .leaf (hleaf position)⟩

theorem readsBack_identifier {name : String} (h : IsName name.toList) :
    ReadsBack (.identifier name (isReservedWord name)) := by
  refine readsBack_of_leaf (fun _ => .identifier) fun position => ?_
  rw [canonicalOnto, nameOnto, List.append_nil]
  split
  · exact .reserved h
  · next hreserved =>
    exact .word h (Lexeme.wordKind_eq_identifier (Bool.eq_false_iff.mpr hreserved))

theorem readsBack_string (value : String) : ReadsBack (.string value) :=
  readsBack_of_leaf (fun _ => .string) fun _ => .quoted value

theorem readsBack_integer {text : String} (h : IsInteger text.toList) : ReadsBack (.integer text) := by
  refine readsBack_of_leaf (fun _ => .integer) fun position => ?_
  rw [canonicalOnto, List.append_nil]
  exact .integer h

theorem readsBack_decimal {text : String} (h : IsDecimal text.toList) : ReadsBack (.decimal text) := by
  refine readsBack_of_leaf (fun _ => .decimal) fun position => ?_
  rw [canonicalOnto, List.append_nil]
  exact .decimal h

/-- A word with a meaning of its own. -/
theorem readsBack_word {e : Expr} {word : String} {kind : Token.Kind} (htext : canonicalOnto e [] = word.toList)
    (hname : IsName word.toList) (hkind : Lexeme.wordKind word.toList = kind)
    (hleaf : ∀ position, Leaf ⟨kind, position, word⟩ e) : ReadsBack e := by
  refine readsBack_of_leaf hleaf fun position => ?_
  rw [htext]
  exact .word hname hkind

theorem readsBack_null : ReadsBack .null :=
  readsBack_word (List.append_nil _) (by decide) rfl fun _ => .null

theorem readsBack_boolean (value : Bool) : ReadsBack (.boolean value) := by
  cases value with
  | true => exact readsBack_word (List.append_nil _) (by decide) rfl fun _ => .true
  | false => exact readsBack_word (List.append_nil _) (by decide) rfl fun _ => .false

/-! ### Lists -/

/-- The elements of a list. -/
theorem spells_elements {e : Expr} {es : List Expr} (he : ReadsBack e) (hes : ∀ e ∈ es, ReadsBack e) :
    Spells .elements (canonicalOnto e (restOnto es [])) (.list (e :: es)) := by
  have hfirst : Spells (.chain .or) (canonicalOnto e []) e := Spells.chain_of_primary he .or
  induction es generalizing e with
  | nil => exact hfirst.last
  | cons e' es ih =>
    rw [List.forall_mem_cons] at hes
    rw [canonicalOnto_append, restOnto]
    exact hfirst.more (ih hes.1 hes.2 (Spells.chain_of_primary hes.1 .or))

theorem readsBack_list {es : List Expr} (hes : ∀ e ∈ es, ReadsBack e) : ReadsBack (.list es) := by
  cases es with
  | nil => exact Spells.empty
  | cons e es =>
    rw [List.forall_mem_cons] at hes
    have hlist := (spells_elements hes.1 hes.2).list
    rw [canonicalOnto_append, List.append_assoc, ← restOnto_append, ← canonicalOnto_append] at hlist
    exact hlist

/-! ### Operations -/

theorem readsBack_binary {family : Family} {op : String} {left right : Expr}
    (hop : Family.ofWord? op = some family) (hl : ReadsBack left) (hr : ReadsBack right) :
    ReadsBack (.binary family op left right) := by
  have hparens := (Spells.binary hop hl hr).parens
  rw [List.append_assoc, List.cons_append, List.append_assoc, List.cons_append, ← canonicalOnto_append right,
    ← canonicalOnto_append left] at hparens
  exact hparens

/-! ### Well-formed expressions -/

/-- **The canonical text of a well-formed expression is scanned to its end, and its tokens derive the expression.** -/
theorem WellFormed.readsBack {e : Expr} (h : e.WellFormed) : ReadsBack e := by
  induction h with
  | identifier hname => exact readsBack_identifier hname
  | @string value => exact readsBack_string value
  | integer htext => exact readsBack_integer htext
  | decimal htext => exact readsBack_decimal htext
  | null => exact readsBack_null
  | @boolean value => exact readsBack_boolean value
  | list _ ih => exact readsBack_list ih
  | binary hop _ _ ihl ihr => exact readsBack_binary hop ihl ihr

theorem WellFormed.sentence {e : Expr} (h : e.WellFormed) (offset : Nat) :
    Sentence (tokensAt offset e.canonical) e := by
  obtain ⟨ts, hscan, hderives⟩ := h.readsBack offset
  rw [tokensAt, scanAt, toList_canonical, hscan]
  exact hderives.chain_of_primary .or

/-- No two well-formed expressions have the same canonical text. -/
theorem WellFormed.canonical_inj {e e' : Expr} (h : e.WellFormed) (h' : e'.WellFormed) :
    e = e' ↔ e.canonical = e'.canonical := by
  constructor
  · rintro rfl
    rfl
  · intro htext
    have hsentence : Sentence (tokensAt 0 e.canonical) e := h.sentence 0
    rw [htext] at hsentence
    exact hsentence.unique (h'.sentence 0)

end Expr

/-- **The canonical text of a well-formed expression is read as that expression**, wherever the text starts. -/
theorem parseAt_canonical (e : Expr) (offset : Nat) (h : e.WellFormed) : parseAt offset e.canonical = .ok e :=
  parseTokens_ok_iff_sentence.mpr (h.sentence offset)

/-- A reserved name, a string with a quote in it and numbers of both kinds, in a list and two operations. -/
theorem parseAt_canonical_nested :
    let e : Expr := .binary .or "or"
      (.binary .comparison "in" (.identifier "null" true) (.list [.integer "-1", .decimal "2."])) (.string "it's")
    e.WellFormed ∧ parseAt 7 e.canonical = .ok e := by
  intro e
  have h : e.WellFormed := by
    refine .binary rfl (.binary rfl (.identifier (by decide +kernel)) (.list ?_)) .string
    rw [List.forall_mem_cons, List.forall_mem_singleton]
    refine ⟨.integer (isInteger_cons_iff.mpr (.inr ⟨rfl, by decide⟩)), .decimal ?_⟩
    exact ⟨['2'], [], ⟨['2'], by decide, .inl rfl⟩, by simp, rfl⟩
  exact ⟨h, parseAt_canonical e 7 h⟩

/-- **Every expression that a text is read as is well-formed**, and so its canonical text is read as the very same one.
What two texts are read as is the same just if it has the same canonical text. -/
theorem parseAt_wellFormed (offset : Nat) (text : String) (e : Expr) (h : parseAt offset text = .ok e) :
    e.WellFormed ∧ parse e.canonical = .ok e ∧
      ∀ (offset' : Nat) (text' : String) (e' : Expr), parseAt offset' text' = .ok e' →
        (e = e' ↔ e.canonical = e'.canonical) := by
  have hwell : e.WellFormed := (parseTokens_ok_iff_sentence.mp h).wellFormed
  refine ⟨hwell, parseTokens_ok_iff_sentence.mpr (hwell.sentence 0), fun offset' text' e' h' => ?_⟩
  exact hwell.canonical_inj (parseTokens_ok_iff_sentence.mp h').wellFormed

/-- A list with more blanks than its canonical text, and with a trailing comma. -/
theorem parseAt_wellFormed_trailing :
    parseAt 3 " [ -1, ]" = .ok (.list [.integer "-1"]) ∧ (Expr.list [.integer "-1"]).WellFormed ∧
      parse (Expr.list [.integer "-1"]).canonical = .ok (.list [.integer "-1"]) ∧
      ∀ (offset' : Nat) (text' : String) (e' : Expr), parseAt offset' text' = .ok e' →
        (.list [.integer "-1"] = e' ↔ (Expr.list [.integer "-1"]).canonical = e'.canonical) := by
  have htokens : tokensAt 3 " [ -1, ]" =
      [⟨.bracketOpen, 4, "["⟩, ⟨.integer, 6, "-1"⟩, ⟨.comma, 8, ","⟩, ⟨.bracketClose, 10, "]"⟩] := by decide +kernel
  have helements : Derives .elements [⟨.integer, 6, "-1"⟩] (.list [.integer "-1"]) :=
    .last (Derives.chain_of_primary (.leaf .integer) .or)
  have hparse : parseAt 3 " [ -1, ]" = .ok (.list [.integer "-1"]) := by
    rw [parseAt, htokens]
    exact parseTokens_ok_iff_sentence.mpr
      (Derives.chain_of_primary (.trailing rfl helements rfl rfl) .or)
  exact ⟨hparse, parseAt_wellFormed 3 " [ -1, ]" (.list [.integer "-1"]) hparse⟩

end FilterLang
