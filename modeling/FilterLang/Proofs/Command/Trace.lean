import FilterLang.Command.Check
import FilterLang.Proofs.Grammar.Place
import FilterLang.Proofs.Scan.Unterminated
import FilterLang.Proofs.Scanner.Steps

/-!
# What a check logs

A check makes records while it scans and while it reads, and some ways out of the scanner make none. What is recorded is
told by the text alone: its tokens and its ending (`records_drain`), and how it is read. All of it is detail
(`detailed_check`), so nothing is shown of it unless more logging is asked for.

Whether the end of an open string is recorded depends on the backslashes that the text ends with. In a string they come
in pairs, or in front of another character, so one that is left over has nothing behind it to escape
(`endsUnpaired_iff_dangling`).

The main statement is `shown_check`: the records of a check, from first to last.
-/

namespace FilterLang

/-! ### Backslashes at the end of a text -/

/-- The number of backslashes that the characters end with. -/
def finalBackslashes (cs : List Char) : Nat := (cs.reverse.takeWhile (· == '\\')).length

/-- The characters end with a backslash that is left over when those before it are paired. -/
def EndsUnpaired (cs : List Char) : Prop := finalBackslashes cs % 2 = 1

instance (cs : List Char) : Decidable (EndsUnpaired cs) := inferInstanceAs (Decidable (_ = _))

theorem finalBackslashes_concat (cs : List Char) (c : Char) :
    finalBackslashes (cs ++ [c]) = if c = '\\' then finalBackslashes cs + 1 else 0 := by
  rw [finalBackslashes, List.reverse_concat]
  by_cases hc : c = '\\'
  · simp [hc, finalBackslashes]
  · simp [hc]

theorem endsUnpaired_concat_iff {cs : List Char} : EndsUnpaired (cs ++ ['\\']) ↔ ¬ EndsUnpaired cs := by
  rw [EndsUnpaired, EndsUnpaired, finalBackslashes_concat, if_pos rfl]
  omega

theorem not_endsUnpaired_concat {c : Char} (hc : c ≠ '\\') (cs : List Char) : ¬ EndsUnpaired (cs ++ [c]) := by
  simp [EndsUnpaired, finalBackslashes_concat, hc]

/-- In the body of a string no backslash is left over: it has another one behind it, or a letter. -/
theorem Quoted.Body.not_endsUnpaired {body value front : List Char} (h : Body body value)
    (hfront : ¬ EndsUnpaired front) : ¬ EndsUnpaired (front ++ body) := by
  induction h generalizing front with
  | nil => rwa [List.append_nil]
  | @plain c cs value _ hslash _ ih =>
    rw [List.append_cons]
    exact ih (not_endsUnpaired_concat hslash front)
  | @escape letter c cs value _ _ ih =>
    rw [List.append_cons, List.append_cons]
    refine ih ?_
    by_cases hletter : letter = '\\'
    · rw [hletter, endsUnpaired_concat_iff, endsUnpaired_concat_iff, not_not]
      exact hfront
    · exact not_endsUnpaired_concat hletter _

/-- **A text with an open string ends right after the backslash of an escape just if a backslash is left over.** -/
theorem endsUnpaired_iff_dangling {offset start : Nat} {text : String} {dangling : Bool}
    (h : (scanAt offset text).ending = .unterminated start dangling) :
    EndsUnpaired text.toList ↔ dangling = true := by
  have hscan : Scan.ofChars offset text.toList = ⟨tokensAt offset text, .unterminated start dangling⟩ := by
    rw [← h]
    rfl
  obtain ⟨front, rest, htext, -, hrest, -⟩ := Scan.ofChars_unterminated_iff.mp hscan
  obtain ⟨-, body, value, hbody, rfl⟩ := Quoted.read_eq_unclosed_iff.mp hrest
  have hpaired : ¬ EndsUnpaired (front ++ ['\''] ++ body) :=
    hbody.not_endsUnpaired (not_endsUnpaired_concat (by decide) front)
  rw [htext, List.append_cons, ← List.append_assoc]
  cases dangling with
  | false =>
    rw [if_neg Bool.false_ne_true, List.append_nil]
    exact iff_of_false hpaired Bool.false_ne_true
  | true =>
    rw [if_pos rfl, endsUnpaired_concat_iff]
    exact iff_of_true hpaired rfl

/-! ### Details -/

namespace Log

/-- What is recorded tells how something is being done, or every step of it. -/
def Detailed (records : List Record) : Prop := ∀ record ∈ records, record.level = .debug ∨ record.level = .trace

@[simp] theorem detailed_append {front back : List Record} :
    Detailed (front ++ back) ↔ Detailed front ∧ Detailed back := List.forall_mem_append

@[simp] theorem detailed_cons {record : Record} {records : List Record} :
    Detailed (record :: records) ↔ (record.level = .debug ∨ record.level = .trace) ∧ Detailed records :=
  List.forall_mem_cons

theorem detailed_nil : Detailed [] := List.forall_mem_nil _

/-- Unless more logging is asked for, details are not shown. -/
theorem Detailed.shown_eq_nil {records : List Record} (h : Detailed records) : shown (some .warn) records = [] := by
  rw [shown, List.filter_eq_nil_iff]
  intro record hrecord
  rcases h record hrecord with hlevel | hlevel <;> simp [Record.isShown, hlevel, Level.rank]

/-- If every step is asked for, all records are shown. -/
theorem shown_trace (records : List Record) : shown (some .trace) records = records := by
  rw [shown, List.filter_eq_self]
  intro record _
  cases hlevel : record.level <;> simp [Record.isShown, hlevel, Level.rank]

/-- Of details, those that tell how something is being done are shown without the steps. -/
theorem Detailed.shown_debug {records : List Record} (h : Detailed records) :
    shown (some .debug) records = records.filter (·.level = .debug) := by
  refine List.filter_congr fun record hrecord => ?_
  rcases h record hrecord with hlevel | hlevel <;> simp [Record.isShown, hlevel, Level.rank]

end Log

/-! ### The records of a check -/

/-- The records at the end of a scan. -/
def Ending.records : Ending → List Log.Record
  | .complete => []
  | .unterminated start dangling => Scanner.unterminatedRecords start dangling

/-- Draining a scanner records the tokens that are left, each where it is found, and how the text ends. -/
theorem Scanner.records_drain (s : Scanner) :
    s.drain.records = s.scan.tokens.flatMap tokenRecords ++ s.scan.ending.records := by
  fun_induction drain s with
  | case1 s t next shorter hstep ts last records hdrain ih =>
    rw [hdrain] at ih
    rw [step_token hstep, Scan.cons, List.flatMap_cons, List.append_assoc, ← ih]
  | case2 s start dangling next hstep =>
    rw [step_unterminated hstep]
    rfl
  | case3 s next hstep =>
    rw [step_finished hstep]
    rfl

/-- What a check records, part by part. Showing JSON makes no difference. -/
theorem records_check (json : Bool) (offset : Nat) (text : String) :
    (check json offset text).records =
      ⟨.debug, .check, "checking expression (" ++ toString text.length ++ " chars)"⟩ ::
        ((tokensAt offset text).flatMap Scanner.tokenRecords ++ (scanAt offset text).ending.records ++
          ⟨.debug, .grammar, "parsing " ++ toString (tokensAt offset text).length ++ " tokens"⟩ ::
            parseRecords (parseAt offset text)) := by
  have hvalue : (Scanner.ofText offset text).drain.value =
      (tokensAt offset text, (Scanner.ofText offset text).exhausted) := Scanner.drain_value _
  have hdrain : (Scanner.ofText offset text).drain.records =
      (tokensAt offset text).flatMap Scanner.tokenRecords ++ (scanAt offset text).ending.records :=
    Scanner.records_drain _
  have hparse : (Scanner.ofText offset text).parse.records =
      (tokensAt offset text).flatMap Scanner.tokenRecords ++ (scanAt offset text).ending.records ++
        ⟨.debug, .grammar, "parsing " ++ toString (tokensAt offset text).length ++ " tokens"⟩ ::
          parseRecords (parseAt offset text) := by
    rw [Scanner.parse, Logged.records_bind, hdrain, hvalue]
    rfl
  rw [check, Logged.records_bind, Logged.records_bind, Scanner.value_parse_ofText, hparse]
  cases parseAt offset text <;> simp

theorem Scanner.detailed_tokenRecords (t : Token) : Log.Detailed (tokenRecords t) := by
  unfold tokenRecords
  dsimp only
  split <;> simp [Log.Detailed]

theorem detailed_parseRecords (result : Except Diagnostics Expr) : Log.Detailed (parseRecords result) := by
  cases result with
  | ok e => simp [parseRecords, Log.Detailed]
  | error ds =>
    refine Log.detailed_append.mpr ⟨?_, by simp [Log.Detailed]⟩
    rw [Log.Detailed, List.forall_mem_map]
    exact fun d _ => .inr rfl

theorem Ending.detailed_records (ending : Ending) : Log.Detailed ending.records := by
  cases ending with
  | complete => exact Log.detailed_nil
  | unterminated start dangling => cases dangling <;> simp [records, Scanner.unterminatedRecords, Log.Detailed]

/-- A check logs details only. -/
theorem detailed_check (json : Bool) (offset : Nat) (text : String) :
    Log.Detailed (check json offset text).records := by
  have htokens : Log.Detailed ((tokensAt offset text).flatMap Scanner.tokenRecords) := by
    rw [Log.Detailed, List.forall_mem_flatMap]
    exact fun t _ => Scanner.detailed_tokenRecords t
  rw [records_check, Log.detailed_cons, Log.detailed_append, Log.detailed_append, Log.detailed_cons]
  exact ⟨.inl rfl, ⟨htokens, Ending.detailed_records _⟩, .inl rfl, detailed_parseRecords _⟩

/-! ### The log of a check -/

/-- What is logged about a token: what is wrong with it if it is invalid, and then the token itself. -/
def Token.log (t : Token) : List Log.Record :=
  (if t.kind = .invalid then [⟨.debug, .scanner, t.value⟩] else []) ++
    [⟨.trace, .scanner, "token " ++ t.kind.name ++ " at " ++ toString t.position ++ ": " ++ t.display⟩]

/-- What is logged at the end of a text: a string that is never closed, unless the text ends with a backslash that is
left over. -/
def closingLog (offset : Nat) (text : String) : List Log.Record :=
  match (scanAt offset text).ending with
  | .complete => []
  | .unterminated start _ =>
    if EndsUnpaired text.toList then []
    else [⟨.debug, .scanner, "unterminated string starting at position " ++ toString (start + 1)⟩]

/-- What is logged about a reading. -/
inductive ReadingLog : Except Diagnostics Expr → List Log.Record → Prop where
  /-- The expression is shown in its canonical text. -/
  | ok {e : Expr} : ReadingLog (.ok e) [⟨.debug, .grammar, "parsed expression " ++ e.canonical⟩]
  /-- There is one diagnostic. -/
  | error {d : Diagnostic} :
      ReadingLog (.error (.singleton d))
        [⟨.trace, .grammar, d.display⟩, ⟨.debug, .grammar, "parse failed with 1 error(s)"⟩]

theorem tokenRecords_eq_log : Scanner.tokenRecords = Token.log := by
  funext t
  unfold Scanner.tokenRecords Token.log
  by_cases hkind : t.kind = .invalid <;> simp [hkind]

theorem ending_records_eq_closingLog (offset : Nat) (text : String) :
    (scanAt offset text).ending.records = closingLog offset text := by
  unfold closingLog
  cases hending : (scanAt offset text).ending with
  | complete => rfl
  | unterminated start dangling =>
    simp [Ending.records, Scanner.unterminatedRecords, endsUnpaired_iff_dangling hending]

theorem readingLog_parseRecords (offset : Nat) (text : String) :
    ReadingLog (parseAt offset text) (parseRecords (parseAt offset text)) := by
  cases hparse : parseAt offset text with
  | ok e => exact .ok
  | error ds =>
    obtain ⟨d, rfl, -⟩ := exists_diagnostic_of_parseAt hparse
    have hone : "parse failed with " ++ toString 1 ++ " error(s)" = "parse failed with 1 error(s)" := by cbv
    have hrecords : parseRecords (.error (.singleton d)) =
        [⟨.trace, .grammar, d.display⟩, ⟨.debug, .grammar, "parse failed with 1 error(s)"⟩] := by
      rw [← hone]
      rfl
    rw [hrecords]
    exact .error

/-- Every token makes one record of a step. -/
theorem countP_log (ts : List Token) : (ts.flatMap Token.log).countP (·.level = .trace) = ts.length := by
  induction ts with
  | nil => rfl
  | cons t ts ih =>
    have htoken : t.log.countP (·.level = .trace) = 1 := by
      unfold Token.log
      split <;> rfl
    rw [List.flatMap_cons, List.countP_append, htoken, ih, List.length_cons, Nat.add_comm]

/-- **The log of a check tells what was done, in order.** If every step is asked for, it holds the length of the text;
each token, an invalid one with what is wrong with it in front; where a string starts that is never closed, unless the
text ends with a backslash that is left over; the number of steps recorded for tokens; and the expression, or its one
diagnostic and their number. Without the steps it holds the other records, in the same order. -/
theorem shown_check (json : Bool) (offset : Nat) (text : String) :
    let records := (check json offset text).records
    let scanned := (tokensAt offset text).flatMap Token.log
    ∃ reading, ReadingLog (parseAt offset text) reading ∧
      Log.shown (some .trace) records =
        ⟨.debug, .check, "checking expression (" ++ toString text.length ++ " chars)"⟩ ::
          (scanned ++ closingLog offset text ++
            ⟨.debug, .grammar, "parsing " ++ toString (scanned.countP (·.level = .trace)) ++ " tokens"⟩ :: reading) ∧
      scanned.countP (·.level = .trace) = (tokensAt offset text).length ∧
      Log.shown (some .debug) records = (Log.shown (some .trace) records).filter (·.level = .debug) := by
  intro records scanned
  have hcount : scanned.countP (·.level = .trace) = (tokensAt offset text).length := countP_log _
  refine ⟨parseRecords (parseAt offset text), readingLog_parseRecords offset text, ?_, hcount, ?_⟩
  · rw [Log.shown_trace, hcount, ← ending_records_eq_closingLog]
    simp only [scanned, ← tokenRecords_eq_log]
    exact records_check json offset text
  · rw [Log.shown_trace]
    exact (detailed_check json offset text).shown_debug

end FilterLang
