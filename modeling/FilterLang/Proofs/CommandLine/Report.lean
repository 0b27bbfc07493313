import FilterLang.Proofs.Command.Trace
import FilterLang.Proofs.CommandLine.Check
import FilterLang.Proofs.Grammar.Due
import FilterLang.Proofs.Scan.Breaks

/-!
# How a failed check is reported

Diagnostics are shown on a line each, on the error stream and as one text, and so there are as many lines as diagnostics
if every message is a single line. Messages quote tokens as source text and operators, none of which hold a line break.
They also quote the character that an invalid token complains of. A stray character is no blank, but the character
behind a backslash may be a line break, and then the message goes over two lines (`oneLine_message_iff`).

`report_lines` says when this happens: a string is cut short by a backslash with a line break behind it, what stands
before the string is viable, and an operand is due there.
-/

namespace FilterLang

open FilterLang.Text Grammar

/-! ### Messages -/

section Messages

variable {offset : Nat} {text : String} {fault : Fault} {k : List Token} {t : Token}

/-- The message about a backslash with a line break behind it, where an operand is due. -/
def breakMessage : String := "Unexpected token '<INVALID>': Unrecognized escape sequence '\\\n'"

/-- The message about an invalid token quotes its label, and tells what is wrong. -/
theorem message_of_invalid (hkind : t.kind = .invalid) :
    (Fault.unexpected t).message = "Unexpected token '" ++ t.display ++ "'" ++ (": " ++ Fault.detail t) := by
  have hmessage : (Fault.unexpected t).message = "Unexpected token '" ++ t.display ++ "'" ++ ": " ++ Fault.detail t :=
    if_pos hkind
  exact hmessage.trans String.append_assoc

theorem message_of_escapesBreak (h : t.EscapesBreak) : (Fault.unexpected t).message = breakMessage := by
  obtain ⟨hkind, hplaced⟩ := h
  have hdisplay : t.display = Token.Kind.invalid.label := by
    rw [Token.display, hkind]
  have hmessage := message_of_invalid hkind
  rw [hplaced.detail, hdisplay] at hmessage
  exact hmessage.trans (by decide +kernel)

theorem oneLine_openers {word : String} (h : word ∈ openers) : OneLine word := by
  have hall : (openers.all fun word => decide (OneLine word)) = true := by decide
  exact of_decide_eq_true (List.all_eq_true.mp hall word h)

/-- A message is a single line, unless it is about a backslash with a line break behind it. -/
theorem oneLine_message_iff (h : Parse.sentence (tokensAt offset text) = .error (fault, k)) :
    OneLine fault.message ↔ ¬ ∃ t, fault = .unexpected t ∧ t.EscapesBreak := by
  have hforms : ∀ t, (fault = .unexpected t ∨ ∃ kind, fault = .mismatch kind t) →
      ∃ l k position, Lexeme.Form l k position t := by
    intro t hfault
    exact exists_form_of_mem (mem_of_fault h hfault)
  cases fault with
  | empty => exact iff_of_true (by decide) (by simp)
  | endedEarly => exact iff_of_true (by decide) (by simp)
  | leftover => exact iff_of_true (by decide) (by simp)
  | operandMissing after =>
    have hafter := oneLine_openers (mem_openers_of_sentence h)
    refine iff_of_true ?_ (by simp)
    have hfront : OneLine "Expected expression after '" := by decide
    exact oneLine_append.mpr ⟨oneLine_append.mpr ⟨hfront, hafter⟩, by decide⟩
  | mismatch kind t =>
    obtain ⟨l, k, position, hform⟩ := hforms t (.inr ⟨kind, rfl⟩)
    refine iff_of_true ?_ (by simp)
    have hfront : OneLine ("Expected " ++ kind.label) := oneLine_append.mpr ⟨by decide, kind.oneLine_label⟩
    exact oneLine_append.mpr ⟨oneLine_append.mpr ⟨hfront, by decide⟩, hform.oneLine_display⟩
  | unexpected t =>
    obtain ⟨l, k, position, hform⟩ := hforms t (.inl rfl)
    have hfront : OneLine ("Unexpected token '" ++ t.display ++ "'") :=
      oneLine_append.mpr ⟨oneLine_append.mpr ⟨by decide, hform.oneLine_display⟩, by decide⟩
    by_cases hkind : t.kind = .invalid
    · obtain ⟨what, hplaced, hwhat⟩ := hform.exists_placed_oneLine hkind
      have hcolon : OneLine ": " := by decide
      have hmessage : OneLine (Fault.unexpected t).message ↔ OneLine what := by
        rw [message_of_invalid hkind, hplaced.detail, oneLine_append, and_iff_right hfront, oneLine_append,
          and_iff_right hcolon]
      rw [hmessage, hwhat]
      simp
    · have hmessage : (Fault.unexpected t).message = "Unexpected token '" ++ t.display ++ "'" := if_neg hkind
      have hbreak : ¬ t.EscapesBreak := fun hbreak => hkind hbreak.1
      rw [hmessage]
      exact iff_of_true hfront (by simp [hbreak])

/-- Where the text goes wrong, an operand is due, and there is a string that is cut short by a backslash with a line
break behind it. -/
def FailsAtBreak (offset : Nat) (text : String) : Prop :=
  ∃ front t k, tokensAt offset text = front ++ t :: k ∧ t.EscapesBreak ∧ Viable front ∧ OperandDue front

theorem failsAtBreak_iff (h : Parse.sentence (tokensAt offset text) = .error (fault, k)) :
    FailsAtBreak offset text ↔ ∃ t, fault = .unexpected t ∧ t.EscapesBreak := by
  constructor
  · rintro ⟨front, t, k', hts, hbreak, hfront⟩
    have hsentence := (sentence_unexpected_iff (k := k') hbreak.1).mpr hfront
    rw [← hts, h] at hsentence
    cases hsentence
    exact ⟨t, rfl, hbreak⟩
  · rintro ⟨t, rfl, hbreak⟩
    obtain ⟨front, hts⟩ := exists_front_of_sentence h
    obtain ⟨k', rfl⟩ := exists_unread_of_fault h (.inl rfl)
    rw [hts] at h
    exact ⟨front, t, k', hts, hbreak, (sentence_unexpected_iff hbreak.1).mp h⟩

/-- What a failed reading says about a text. -/
theorem exists_message_of_parseAt {ds : Diagnostics} (h : parseAt offset text = .error ds) :
    ∃ d, ds = .singleton d ∧ (OneLine d.message ↔ ¬ FailsAtBreak offset text) ∧
      (FailsAtBreak offset text → d.message = breakMessage ∧
        ∃ front back : String, text = front ++ "\\\n" ++ back ∧ d.token.position = offset + front.length) := by
  obtain ⟨fault, k, hsentence, rfl⟩ := parseTokens_eq_error_iff.mp h
  refine ⟨_, rfl, ?_, fun hfails => ?_⟩
  · rw [failsAtBreak_iff hsentence]
    exact oneLine_message_iff hsentence
  · obtain ⟨t, rfl, hbreak⟩ := (failsAtBreak_iff hsentence).mp hfails
    obtain ⟨k', rfl⟩ := exists_unread_of_fault hsentence (.inl rfl)
    exact ⟨message_of_escapesBreak hbreak, exists_break (mem_of_fault hsentence (.inl rfl)) hbreak⟩

end Messages

/-! ### One line for each diagnostic -/

section Lines

variable {ds : Diagnostics} {d : Diagnostic} {ls : List String}

theorem Diagnostic.oneLine_display_iff : OneLine d.display ↔ OneLine d.message := by
  have hplace : OneLine " at position " := by decide
  simp only [display, oneLine_append, hplace, oneLine_nat, and_true]

/-- As one text, diagnostics have a line each just if their messages are single lines. -/
theorem Diagnostics.length_lines_display_iff :
    (lines ds.display).length = ds.length ↔ ∀ d ∈ ds.toList, OneLine d.message := by
  have hne : ds.toList.map Diagnostic.display ≠ [] := by simp [toList]
  rw [display, length, ← List.length_map Diagnostic.display, length_lines_intercalate_eq_iff hne, List.forall_mem_map]
  exact forall₂_congr fun d _ => Diagnostic.oneLine_display_iff

namespace CommandLine

/-- Ending every line is the same as putting line breaks between the lines and an empty text. -/
theorem unlines_eq_intercalate (ls : List String) : unlines ls = "\n".intercalate (ls ++ [""]) := by
  induction ls with
  | nil => rfl
  | cons l ls ih =>
    obtain ⟨l', ls', hls⟩ := List.exists_cons_of_ne_nil (List.append_ne_nil_of_right_ne_nil ls (List.cons_ne_nil "" []))
    rw [List.cons_append, hls, String.intercalate_cons_cons, ← hls, ← ih]
    simp [unlines]

theorem lines_unlines_eq_iff (ls : List String) : lines (unlines ls) = ls ++ [""] ↔ ∀ l ∈ ls, OneLine l := by
  have hne : ls ++ [""] ≠ [] := by simp
  rw [unlines_eq_intercalate, lines_intercalate_eq_iff hne, List.forall_mem_append, and_iff_left]
  simp [OneLine]

/-- The report of a diagnostic is a single line just if its message is one. -/
theorem oneLine_failureLine_iff :
    OneLine ("error: " ++ d.message ++ " (position " ++ toString d.ordinal ++ ")") ↔ OneLine d.message := by
  have hfront : OneLine "error: " := by decide
  have hplace : OneLine " (position " := by decide
  have hback : OneLine ")" := by decide
  simp only [oneLine_append, hfront, hplace, hback, oneLine_nat, true_and, and_true]

/-- On the error stream, diagnostics have a line each just if their messages are single lines. -/
theorem lines_report_iff :
    lines (unlines (failureLines (.parse ds))) = failureLines (.parse ds) ++ [""] ↔
      ∀ d ∈ ds.toList, OneLine d.message := by
  rw [lines_unlines_eq_iff, failureLines, List.forall_mem_map]
  exact forall₂_congr fun d _ => oneLine_failureLine_iff

end CommandLine

end Lines

/-! ### Nothing but the report -/

namespace CommandLine

/-- Unless more logging is asked for, a failed check writes the report of its diagnostics on the error stream and
nothing else. -/
theorem runArgs_report {args : List String} {json pretty : Bool} {offset : Nat} {expression : Option String}
    {input : Input} {text : String} {ds : Diagnostics}
    (hargs : Invocation.ofArgs args = .ok ⟨.check, .warn, json, pretty, offset, expression⟩)
    (htext : expressionText expression input = .ok text) (hparse : parseAt offset text = .error ds) :
    runArgs args input =
      .ok ⟨1, unlines (failureOutput json (.parse ds)), unlines (failureLines (.parse ds))⟩ := by
  have hrecords :
      Log.shown (some .warn) (execute ⟨.check, .warn, json, pretty, offset, expression⟩ text).records = [] := by
    refine Log.Detailed.shown_eq_nil ?_
    simpa [execute] using detailed_check json offset text
  simp only [runArgs, hargs, run, htext, value_execute_check, hparse, hrecords]
  rfl

/-- **Diagnostics are reported on a line each, unless the text fails at a line break behind a backslash.** If it does
not, then no message holds a line break, as one text there are as many lines as diagnostics, and so there are on the
error stream if no more logging is asked for. If it does, then none of this is so: the one message quotes the line
break, and it points at the backslash. -/
theorem report_lines (offset : Nat) (text : String) (ds : Diagnostics) (h : parseAt offset text = .error ds) :
    ((∀ d ∈ ds.toList, '\n' ∉ d.message.toList) ↔ ¬ FailsAtBreak offset text) ∧
      ((lines ds.display).length = ds.length ↔ ¬ FailsAtBreak offset text) ∧
      (∀ (args : List String) (json pretty : Bool) (expression : Option String) (input : Input),
        Invocation.ofArgs args = .ok ⟨.check, .warn, json, pretty, offset, expression⟩ →
          expressionText expression input = .ok text →
            ∃ output errors, runArgs args input = .ok ⟨1, output, errors⟩ ∧
              errors = unlines (ds.toList.map fun d =>
                "error: " ++ d.message ++ " (position " ++ toString d.ordinal ++ ")") ∧
              (lines errors = (ds.toList.map fun d =>
                "error: " ++ d.message ++ " (position " ++ toString d.ordinal ++ ")") ++ [""] ↔
                ¬ FailsAtBreak offset text)) ∧
      (FailsAtBreak offset text → ∃ d, ds = .singleton d ∧ d.message = breakMessage ∧
        ∃ front back : String, text = front ++ "\\\n" ++ back ∧ d.token.position = offset + front.length) := by
  obtain ⟨d, rfl, hline, hfails⟩ := exists_message_of_parseAt h
  have hmessages : (∀ d' ∈ (Diagnostics.singleton d).toList, OneLine d'.message) ↔ ¬ FailsAtBreak offset text := by
    rw [← hline]
    exact List.forall_mem_singleton
  refine ⟨hmessages, Diagnostics.length_lines_display_iff.trans hmessages, ?_, fun hbreak => ⟨d, rfl, hfails hbreak⟩⟩
  intro args json pretty expression input hargs htext
  exact ⟨_, _, runArgs_report hargs htext h, rfl, lines_report_iff.trans hmessages⟩

/-- A string that is cut short by a backslash with a line break behind it, where no operand is due: it is said that the
expression should have ended. -/
theorem report_lines_leftover :
    let text := "a 'b\\\n"
    let d : Diagnostic :=
      ⟨⟨.invalid, 7, "Unrecognized escape sequence '\\\n' at position 8"⟩, "Expected end of expression"⟩
    let args := ["check", "--offset", "3", text]
    parseAt 3 text = .error (.singleton d) ∧
      Invocation.ofArgs args = .ok ⟨.check, .warn, false, false, 3, some text⟩ ∧
      expressionText (some text) .terminal = .ok text ∧ ¬ FailsAtBreak 3 text ∧
      (lines (Diagnostics.singleton d).display).length = 1 ∧
      ∃ output errors, runArgs args .terminal = .ok ⟨1, output, errors⟩ ∧
        lines errors = ["error: Expected end of expression (position 8)", ""] := by
  intro text d args
  have htokens : tokensAt 3 text = [⟨.identifier, 3, "a"⟩, d.token] := by decide +kernel
  have hsentence : Parse.sentence [⟨.identifier, 3, "a"⟩, d.token] = .error (.leftover, [d.token]) := by cbv
  have hparse : parseAt 3 text = .error (.singleton d) := by
    rw [parseAt, htokens]
    exact parseTokens_eq_error_iff.mpr ⟨_, _, hsentence, rfl⟩
  have hargs : Invocation.ofArgs args = .ok ⟨.check, .warn, false, false, 3, some text⟩ := by decide +kernel
  obtain ⟨hmessages, hdisplay, hreport, -⟩ := report_lines 3 text (.singleton d) hparse
  have hfails : ¬ FailsAtBreak 3 text := by
    refine hmessages.mp fun d' hd' => ?_
    obtain rfl : d' = d := List.mem_singleton.mp hd'
    decide
  obtain ⟨output, errors, hrun, -, herrors⟩ := hreport args false false (some text) .terminal hargs rfl
  refine ⟨hparse, hargs, rfl, hfails, hdisplay.mpr hfails, output, errors, hrun, ?_⟩
  rw [herrors.mpr hfails]
  decide +kernel

/-- Between quotes, a backslash with a line break behind it: the message quotes the line break, so it is reported on two
lines. -/
theorem report_breaks :
    (¬ ∀ (offset : Nat) (text : String) (ds : Diagnostics), parseAt offset text = .error ds →
        ∀ d ∈ ds.toList, '\n' ∉ d.message.toList) ∧
      (¬ ∀ (offset : Nat) (text : String) (ds : Diagnostics), parseAt offset text = .error ds →
        (lines ds.display).length = ds.length) ∧
      ¬ ∀ (args : List String) (json pretty : Bool) (offset : Nat) (expression : Option String) (input : Input)
          (text : String) (ds : Diagnostics),
        Invocation.ofArgs args = .ok ⟨.check, .warn, json, pretty, offset, expression⟩ →
          expressionText expression input = .ok text → parseAt offset text = .error ds →
            ∃ output errors, runArgs args input = .ok ⟨1, output, errors⟩ ∧
              lines errors = (ds.toList.map fun d =>
                "error: " ++ d.message ++ " (position " ++ toString d.ordinal ++ ")") ++ [""] := by
  let text := "'\\\n'"
  let d : Diagnostic := ⟨⟨.invalid, 1, "Unrecognized escape sequence '\\\n' at position 2"⟩, breakMessage⟩
  have htokens : tokensAt 0 text = [d.token] := by decide +kernel
  have hsentence : Parse.sentence [d.token] = .error (.unexpected d.token, [d.token]) := by cbv
  have hbreak : d.token.EscapesBreak := ⟨rfl, by rw [Token.Placed]; decide +kernel⟩
  have hparse : parseAt 0 text = .error (.singleton d) := by
    rw [parseAt, htokens]
    refine parseTokens_eq_error_iff.mpr ⟨_, _, hsentence, ?_⟩
    rw [message_of_escapesBreak hbreak]
    rfl
  have hmessage : ¬ ∀ d' ∈ (Diagnostics.singleton d).toList, OneLine d'.message := by
    intro h
    exact h d (List.mem_singleton.mpr rfl) (by decide)
  refine ⟨fun h => hmessage (h 0 text _ hparse), fun h => ?_, fun h => ?_⟩
  · exact hmessage (Diagnostics.length_lines_display_iff.mp (h 0 text _ hparse))
  · have hargs : Invocation.ofArgs ["check", text] = .ok ⟨.check, .warn, false, false, 0, some text⟩ := by
      decide +kernel
    obtain ⟨output, errors, hrun, hlines⟩ := h _ _ _ _ _ .terminal text _ hargs rfl hparse
    rw [runArgs_report hargs rfl hparse] at hrun
    cases hrun
    exact hmessage (lines_report_iff.mp hlines)

end CommandLine

end FilterLang
