import FilterLang.Proofs.Grammar.Place
import FilterLang.Proofs.Scanner.Steps

/-!
# Sessions with a scanner

A scanner may be asked for tokens again and again: for the next one, for a number of them, or for all that are left. In
whatever way it is asked, it hands out the tokens of its text in order. When it has found that there are no more, it is
at the end of the text and stays there. A reading may take over at any point, and comes out as the reading of what is
left of the text (`serveAll_agrees`).

## The invariant

What one request hands out and the tokens left after it are the tokens that were left before, and the scanner only moves
on (`Served.From`). Requests in sequence keep this (`Served.From.trans`), so a whole session does.
-/

namespace FilterLang.Scanner

/-- What can be asked of a scanner. -/
inductive Request where
  /-- The next token. -/
  | next
  /-- As many tokens as given, or all that are left if they are fewer. -/
  | take (n : Nat)
  /-- All tokens that are left. -/
  | rest
  deriving DecidableEq, Repr

/-- What comes of a request. -/
structure Served where
  /-- The tokens that are handed out. -/
  tokens : List Token
  /-- Whether the scanner found that there is no token left. -/
  ended : Bool
  /-- The scanner afterwards. -/
  after : Scanner
  deriving DecidableEq, Repr

/-- What comes of a request, and then of another one to the scanner that it leaves. -/
def Served.andThen (x y : Served) : Served := ⟨x.tokens ++ y.tokens, x.ended || y.ended, y.after⟩

/-- Serves one request. -/
def serve (s : Scanner) : Request → Served
  | .next => ⟨s.next.1.toList, s.next.1.isNone, s.next.2⟩
  | .take n => ⟨(s.take n).1, (s.take n).1.length < n, (s.take n).2⟩
  | .rest => ⟨s.takeAll.1, true, s.takeAll.2⟩

/-- Serves requests one after the other. -/
def serveAll (s : Scanner) : List Request → Served
  | [] => ⟨[], false, s⟩
  | r :: rs => (s.serve r).andThen ((s.serve r).after.serveAll rs)

/-! ### What a request leaves -/

/-- What is handed out stands in front of what is left, and the scanner has only moved on. If it has found that there is
no token left, it is at the end of its text. -/
structure Served.From (s : Scanner) (x : Served) : Prop where
  moves : ∃ n ≤ s.rest.length, x.after = s.skip n
  tokens_eq : s.scan.tokens = x.tokens ++ x.after.scan.tokens
  rest_eq : x.ended = true → x.after.rest = []

namespace Served.From

variable {s : Scanner} {x y : Served}

theorem idle (s : Scanner) : Served.From s ⟨[], false, s⟩ :=
  ⟨⟨0, Nat.zero_le _, rfl⟩, rfl, nofun⟩

/-- At the end of the text the scanner stays, and has nothing to hand out. -/
theorem of_rest (h : x.From s) (hs : s.rest = []) : x.tokens = [] ∧ x.after = s := by
  constructor
  · have htokens := h.tokens_eq
    rw [scan, hs, Scan.ofChars] at htokens
    exact (List.append_eq_nil_iff.mp htokens.symm).1
  · obtain ⟨n, hn, hafter⟩ := h.moves
    rw [hs, List.length_nil, Nat.le_zero] at hn
    rw [hafter, hn, skip_zero]

theorem trans (hx : x.From s) (hy : y.From x.after) : (x.andThen y).From s where
  moves := by
    obtain ⟨m, hm, hafter⟩ := hx.moves
    obtain ⟨n, hn, hafter'⟩ := hy.moves
    rw [hafter, rest_skip, List.length_drop] at hn
    refine ⟨m + n, by omega, ?_⟩
    rw [andThen, hafter', hafter, skip_skip]
  tokens_eq := by
    rw [hx.tokens_eq, hy.tokens_eq, andThen, List.append_assoc]
  rest_eq := by
    intro hended
    rcases Bool.or_eq_true_iff.mp hended with hended | hended
    -- what the first request has brought to the end, the second leaves there
    · rw [andThen, (hy.of_rest (hx.rest_eq hended)).2]
      exact hx.rest_eq hended
    · exact hy.rest_eq hended

theorem on (h : x.From s) {offset : Nat} {text : List Char} (hs : s.On offset text) : x.after.On offset text := by
  obtain ⟨n, hn, hafter⟩ := h.moves
  rw [hafter]
  exact hs.skip hn

end Served.From

/-- The end of the text has no tokens. -/
theorem tokens_exhausted (s : Scanner) : s.exhausted.scan.tokens = [] := by
  rw [scan, rest_exhausted, Scan.ofChars]

theorem from_next (s : Scanner) : (s.serve .next).From s := by
  refine ⟨s.exists_next_eq_skip, ?_, ?_⟩
  · rcases hnext : s.next with ⟨_ | t, rest⟩
    · obtain ⟨htokens, rfl⟩ := tokens_of_next hnext
      simp [serve, hnext, htokens, tokens_exhausted]
    · rw [scan_of_next hnext]
      simp [serve, hnext, Scan.cons]
  · rcases hnext : s.next with ⟨_ | t, rest⟩
    · obtain ⟨-, rfl⟩ := tokens_of_next hnext
      simp [serve, hnext]
    · simp [serve, hnext]

/-- Asking for several tokens is asking for the next one, and for the others if there is one. -/
theorem serve_take_succ (s : Scanner) (n : Nat) :
    s.serve (.take (n + 1)) =
      if (s.serve .next).ended then s.serve .next
      else (s.serve .next).andThen ((s.serve .next).after.serve (.take n)) := by
  rcases hnext : s.next with ⟨_ | t, rest⟩
  · simp [serve, take, hnext]
  · simp [serve, take, hnext, Served.andThen]

theorem from_take (s : Scanner) (n : Nat) : (s.serve (.take n)).From s := by
  induction n generalizing s with
  | zero => exact Served.From.idle s
  | succ n ih =>
    rw [serve_take_succ]
    split
    · exact s.from_next
    · exact s.from_next.trans (ih _)

theorem from_rest (s : Scanner) : (s.serve .rest).From s where
  moves := by
    rw [serve, takeAll, drain_value]
    exact ⟨_, Nat.le_refl _, rfl⟩
  tokens_eq := by
    rw [serve, takeAll, drain_value, tokens_exhausted, List.append_nil]
  rest_eq := by
    rw [serve, takeAll, drain_value]
    exact fun _ => s.rest_exhausted

/-- One request hands out tokens from the front and moves the scanner on. -/
theorem from_serve (s : Scanner) (r : Request) : (s.serve r).From s := by
  cases r with
  | next => exact s.from_next
  | take n => exact s.from_take n
  | rest => exact s.from_rest

/-- So do any number of requests. -/
theorem from_serveAll (s : Scanner) (rs : List Request) : (s.serveAll rs).From s := by
  induction rs generalizing s with
  | nil => exact Served.From.idle s
  | cons r rs ih => exact (s.from_serve r).trans (ih _)

/-! ### Taking over from a scanner -/

/-- What is left of a text where a scanner stands. -/
def left (s : Scanner) : String := String.ofList s.rest

theorem tokensAt_left (s : Scanner) : tokensAt s.location s.left = s.scan.tokens := by
  rw [tokensAt, scanAt, left, String.toList_ofList, scan]

/-- Reading takes the tokens that are left. Only if there is none, it makes a difference where the text begins. -/
theorem parse_eq (s : Scanner) :
    s.parse.value =
      if tokensAt s.location s.left = [] then .error (.singleton ⟨.startOfInput s.offset, "Expected expression"⟩)
      else parseAt s.location s.left := by
  rw [value_parse, parseAt, tokensAt_left]
  split
  · rename_i hnil
    rw [hnil, Grammar.parseTokens_nil]
  · rename_i hne
    exact Grammar.parseTokens_start s.offset s.location hne

/-- **However a scanner is asked, it hands out the tokens of its text in order, and a reading may take over at any
point.** All tokens have been handed out when it has found that there is none left; then it is at the end of the text,
and no further request changes that. A reading that takes over comes out as the reading of the rest of the text from
where the scanner stands; but if no token is left, its diagnostic points at the start of the whole text. -/
theorem serveAll_agrees (offset : Nat) (text : String) (requests : List Request) :
    let served := (ofText offset text).serveAll requests
    let p := served.after.position
    let remaining := String.ofList (text.toList.drop p)
    served.tokens <+: tokensAt offset text ∧
      (served.ended = true →
        served.tokens = tokensAt offset text ∧ p = text.length ∧
          ∀ later, (served.after.serveAll later).tokens = [] ∧ (served.after.serveAll later).after = served.after) ∧
      p ≤ text.length ∧
      served.after.parse.value =
        if tokensAt (offset + p) remaining = [] then
          .error (.singleton ⟨.startOfInput offset, "Expected expression"⟩)
        else parseAt (offset + p) remaining := by
  intro served p remaining
  have hserved : served.From (ofText offset text) := from_serveAll _ requests
  have hon : served.after.On offset text.toList := hserved.on (on_ofText offset text)
  have htokens : tokensAt offset text = served.tokens ++ served.after.scan.tokens := hserved.tokens_eq
  have hlength := hon.length_eq
  rw [String.length_toList] at hlength
  refine ⟨?_, fun hended => ?_, ?_, ?_⟩
  · rw [htokens]
    exact List.prefix_append _ _
  · have hrest := hserved.rest_eq hended
    refine ⟨?_, ?_, fun later => (from_serveAll _ later).of_rest hrest⟩
    · rw [htokens, scan, hrest, Scan.ofChars, List.append_nil]
    · rw [hrest, List.length_nil] at hlength
      exact hlength
  · exact Nat.le_of_add_right_le (Nat.le_of_eq hlength)
  · have hleft : served.after.left = remaining := by rw [left, hon.rest_eq]
    rw [parse_eq, hleft, location, hon.offset_eq]

/-- A string that is never closed behind two tokens: asking for four more than the first finds one, and the end. -/
theorem serveAll_agrees_unterminated :
    let served := (ofText 3 "a eq 'b").serveAll [.next, .take 4]
    served.ended = true ∧ served.tokens = tokensAt 3 "a eq 'b" ∧ served.after.position = 7 ∧
      served.after.parse.value = .error (.singleton ⟨.startOfInput 3, "Expected expression"⟩) := by
  intro served
  have hended : served.ended = true := by decide +kernel
  obtain ⟨-, hend, -, hparse⟩ := serveAll_agrees 3 "a eq 'b" [.next, .take 4]
  obtain ⟨htokens, hposition, -⟩ := hend hended
  have hposition : served.after.position = 7 := hposition
  have hnone : tokensAt (3 + 7) (String.ofList ("a eq 'b".toList.drop 7)) = [] := by decide +kernel
  rw [show (ofText 3 "a eq 'b").serveAll [.next, .take 4] = served from rfl, hposition, if_pos hnone] at hparse
  exact ⟨hended, htokens, hposition, hparse⟩

end FilterLang.Scanner
