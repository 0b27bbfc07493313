import Mathlib.Data.List.Basic

/-!
# The lines of a text

Texts that are put together with line breaks between them have the lines of each of them, one after the other
(`lines_intercalate`). So they make up one line each just if none of them holds a line break
(`lines_intercalate_eq_iff`), and otherwise there are more lines than texts (`length_lines_intercalate_eq_iff`).
-/

namespace FilterLang.Text

/-- The lines of a text: what stands between its line breaks. -/
def lines (text : String) : List String := (text.toList.splitOn '\n').map String.ofList

/-- A text is a single line. -/
def OneLine (text : String) : Prop := '\n' ∉ text.toList

instance (text : String) : Decidable (OneLine text) := inferInstanceAs (Decidable (¬ _))

@[simp] theorem oneLine_append {front back : String} : OneLine (front ++ back) ↔ OneLine front ∧ OneLine back := by
  simp only [OneLine, String.toList_append, List.mem_append, not_or]

@[simp] theorem oneLine_ofList {cs : List Char} : OneLine (String.ofList cs) ↔ '\n' ∉ cs := by
  rw [OneLine, String.toList_ofList]

variable {text : String} {ls : List String}

/-- A text has one line more than it has line breaks. -/
theorem length_lines (text : String) : (lines text).length = text.toList.count '\n' + 1 := by
  rw [lines, List.length_map]
  induction text.toList with
  | nil => rfl
  | cons c cs ih =>
    rw [List.splitOn_cons_eq_if_modifyHead]
    by_cases hc : c = '\n'
    · subst hc
      rw [if_pos (beq_self_eq_true _), List.length_cons, ih, List.count_cons_self]
    · rw [if_neg (by simpa using hc), List.length_modifyHead, ih, List.count_cons_of_ne hc]

/-- A text without a line break is its only line. -/
theorem OneLine.lines_eq (h : OneLine text) : lines text = [text] := by
  rw [lines, List.splitOn_eq_singleton h, List.map_singleton, String.ofList_toList]

theorem length_lines_eq_one_iff : (lines text).length = 1 ↔ OneLine text := by
  rw [length_lines, Nat.add_eq_right, List.count_eq_zero, OneLine]

/-- A line break between two texts ends a line of the first. -/
theorem lines_append_break (front back : String) : lines (front ++ "\n" ++ back) = lines front ++ lines back := by
  have hlist : (front ++ "\n" ++ back).toList = front.toList ++ '\n' :: back.toList := by simp
  rw [lines, hlist, List.splitOn_append_cons_self, List.map_append, lines, lines]

/-- Texts with line breaks between them have the lines of each. -/
theorem lines_intercalate (hne : ls ≠ []) : lines ("\n".intercalate ls) = ls.flatMap lines := by
  induction ls with
  | nil => exact absurd rfl hne
  | cons l ls ih =>
    cases ls with
    | nil => simp
    | cons l' ls =>
      rw [String.intercalate_cons_cons, lines_append_break, ih (List.cons_ne_nil l' ls), ← List.flatMap_cons]

/-- Every text has a line, so there are just as many lines as texts only if each has no more than one. -/
theorem length_flatMap_lines (ls : List String) :
    ls.length ≤ (ls.flatMap lines).length ∧ ((ls.flatMap lines).length = ls.length ↔ ∀ l ∈ ls, OneLine l) := by
  induction ls with
  | nil => simp
  | cons l ls ih =>
    obtain ⟨hle, hiff⟩ := ih
    have hline : 1 ≤ (lines l).length := by
      rw [length_lines]
      omega
    rw [List.flatMap_cons, List.length_append, List.length_cons, List.forall_mem_cons, ← hiff,
      ← length_lines_eq_one_iff]
    constructor
    · omega
    · omega

theorem length_lines_intercalate_eq_iff (hne : ls ≠ []) :
    (lines ("\n".intercalate ls)).length = ls.length ↔ ∀ l ∈ ls, OneLine l := by
  rw [lines_intercalate hne]
  exact (length_flatMap_lines ls).2

/-- **Texts with line breaks between them are the lines of what they make up, just if each is a single line.** -/
theorem lines_intercalate_eq_iff (hne : ls ≠ []) : lines ("\n".intercalate ls) = ls ↔ ∀ l ∈ ls, OneLine l := by
  constructor
  · intro h
    rw [← length_lines_intercalate_eq_iff hne, h]
  · intro h
    rw [lines_intercalate hne, List.flatMap_congr fun l hl => (h l hl).lines_eq, List.flatMap_singleton']

end FilterLang.Text
