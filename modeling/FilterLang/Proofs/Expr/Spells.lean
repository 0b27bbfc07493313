import FilterLang.Proofs.Grammar.Exact
import FilterLang.Proofs.Scan.Append

/-!
# How expressions are spelled

A text spells an expression if it is scanned to its end and a rule derives the expression from its tokens, wherever the
text stands. Texts that spell expressions can be put together: parentheses, brackets, commas, and operators between
spaces run into nothing that stands beside them, so each part keeps its tokens, and the tokens of the whole are derived
from those of its parts.
-/

namespace FilterLang.Grammar

/-- Wherever it stands, the text is scanned to its end, and the rule derives the expression from its tokens. -/
def Spells (rule : Rule) (cs : List Char) (e : Expr) : Prop :=
  ∀ position, ∃ ts, Scan.Whole position cs ts ∧ Derives rule ts e

/-- What may follow an expression. -/
theorem detached_of_mem {c : Char} (hc : c ∈ [' ', ',', ')', ']']) (cs : List Char) : Detached (c :: cs) := by
  simp only [List.mem_cons, List.not_mem_nil, or_false] at hc
  rw [detached_cons_iff]
  rcases hc with rfl | rfl | rfl | rfl <;> decide

namespace Spells

variable {rule : Rule} {cs ds : List Char} {e : Expr} {es : List Expr}

theorem chain_of_primary (h : Spells .primary cs e) (c : Connective) : Spells (.chain c) cs e := fun position =>
  have ⟨ts, hscan, hderives⟩ := h position
  ⟨ts, hscan, hderives.chain_of_primary c⟩

/-- A text that spells an expression is read as that expression. -/
theorem parseAt {text : String} (h : Spells (.chain .or) text.toList e) (offset : Nat) :
    FilterLang.parseAt offset text = .ok e := by
  obtain ⟨ts, hscan, hderives⟩ := h offset
  refine parseTokens_ok_iff_sentence.mpr ?_
  rw [tokensAt, scanAt, hscan]
  exact hderives

/-- A blank behind a text changes nothing. -/
theorem blank (h : Spells rule cs e) {c : Char} (hc : Text.isBlank c = true) : Spells rule (cs ++ [c]) e := by
  intro position
  obtain ⟨ts, hscan, hderives⟩ := h position
  have hpoint : c ≠ '.' := by
    rintro rfl
    exact absurd hc (by decide)
  have hdetached : Detached [c] := detached_cons_iff.mpr ⟨Text.inWord_of_isBlank hc, hpoint⟩
  refine ⟨ts, ?_, hderives⟩
  have := hscan.append hdetached (.blank hc .nil)
  rwa [List.append_nil] at this

/-! ### Parentheses and operators -/

/-- An expression in parentheses. -/
theorem parens (h : Spells (.chain .or) cs e) : Spells .primary ('(' :: (cs ++ [')'])) e := by
  intro position
  obtain ⟨ts, hscan, hderives⟩ := h (position + 1)
  let close : Token := ⟨.parenClose, position + 1 + cs.length, String.ofList [')']⟩
  have hclose : Scan.Whole (position + 1) (cs ++ [')']) (ts ++ [close]) :=
    hscan.append (detached_of_mem (by decide) []) (.punctuation rfl .nil)
  exact ⟨_, .punctuation rfl hclose, .parens rfl hderives rfl⟩

/-- Two operands, and an operator with a space on either side. -/
theorem binary {family : Family} {op : String} {left right : Expr} (hop : Family.ofWord? op = some family)
    (hl : Spells .primary cs left) (hr : Spells .primary ds right) :
    Spells (.chain .or) (cs ++ ' ' :: (op.toList ++ ' ' :: ds)) (.binary family op left right) := by
  intro position
  obtain ⟨hname, hkind⟩ := Lexeme.isName_of_isOperatorWord (Lexeme.isOperatorWord_of_ofWord? hop)
  let middle := position + cs.length + 1
  let operator : Token := ⟨.operator, middle, op⟩
  obtain ⟨ts, hleft, hlderives⟩ := hl position
  obtain ⟨us, hright, hrderives⟩ := hr (middle + op.toList.length + 1)
  have hoperator : Scan.Whole middle op.toList [operator] := .word hname hkind
  have hlast : Scan.Whole middle (op.toList ++ ' ' :: ds) ([operator] ++ us) :=
    hoperator.append (detached_of_mem (by decide) _) (.blank (by decide) hright)
  refine ⟨ts ++ ([operator] ++ us), ?_, hlderives.binary rfl rfl hop hrderives⟩
  exact hleft.append (detached_of_mem (by decide) _) (.blank (by decide) hlast)

/-! ### Lists -/

/-- A list without elements. -/
theorem empty : Spells .primary ['[', ']'] (.list []) := fun _ =>
  ⟨_, .punctuation rfl (.punctuation rfl .nil), .empty rfl rfl⟩

/-- The last element of a list. -/
theorem last (h : Spells (.chain .or) cs e) : Spells .elements cs (.list [e]) := fun position =>
  have ⟨ts, hscan, hderives⟩ := h position
  ⟨ts, hscan, .last hderives⟩

/-- An element in front of others. -/
theorem more (h : Spells (.chain .or) cs e) (hs : Spells .elements ds (.list es)) :
    Spells .elements (cs ++ ',' :: ds) (.list (e :: es)) := by
  intro position
  obtain ⟨ts, hscan, hderives⟩ := h position
  obtain ⟨us, hscans, hmore⟩ := hs (position + cs.length + 1)
  let comma : Token := ⟨.comma, position + cs.length, String.ofList [',']⟩
  refine ⟨ts ++ comma :: us, ?_, .more hderives rfl hmore⟩
  exact hscan.append (detached_of_mem (by decide) _) (.punctuation rfl hscans)

/-- Elements in brackets. -/
theorem list (h : Spells .elements cs e) : Spells .primary ('[' :: (cs ++ [']'])) e := by
  intro position
  obtain ⟨ts, hscan, hderives⟩ := h (position + 1)
  let close : Token := ⟨.bracketClose, position + 1 + cs.length, String.ofList [']']⟩
  have hclose : Scan.Whole (position + 1) (cs ++ [']']) (ts ++ [close]) :=
    hscan.append (detached_of_mem (by decide) []) (.punctuation rfl .nil)
  exact ⟨_, .punctuation rfl hclose, .list rfl hderives rfl⟩

/-- Elements and a comma in brackets. -/
theorem trailing (h : Spells .elements cs e) : Spells .primary ('[' :: (cs ++ [',', ']'])) e := by
  intro position
  obtain ⟨ts, hscan, hderives⟩ := h (position + 1)
  let comma : Token := ⟨.comma, position + 1 + cs.length, String.ofList [',']⟩
  let close : Token := ⟨.bracketClose, position + 1 + cs.length + 1, String.ofList [']']⟩
  have hclose : Scan.Whole (position + 1) (cs ++ [',', ']']) (ts ++ [comma, close]) :=
    hscan.append (detached_of_mem (by decide) _) (.punctuation rfl (.punctuation rfl .nil))
  exact ⟨_, .punctuation rfl hclose, .trailing rfl hderives rfl rfl⟩

end Spells

end FilterLang.Grammar
