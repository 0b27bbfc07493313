/-!
# Integers of 64 bits

Reading the text of an integer: an optional sign and at least one digit, with a value that a signed word of 64 bits
holds.
-/

namespace FilterLang.Number

/-- The value of an ASCII digit. -/
def digitValue (c : Char) : Nat := c.toNat - '0'.toNat

/-- The number that digits denote in base ten. -/
def ofDigits (cs : List Char) : Nat := cs.foldl (fun n c => 10 * n + digitValue c) 0

/-- Splits off a sign: whether it is `-`, and what follows. -/
def splitSign : List Char → Bool × List Char
  | '-' :: cs => (true, cs)
  | '+' :: cs => (false, cs)
  | cs => (false, cs)

/-- The natural number that a text denotes, if it consists of digits only and has at least one. -/
def natural? (cs : List Char) : Option Nat :=
  if cs ≠ [] ∧ cs.all Char.isDigit then some (ofDigits cs) else none

/-- An integer, if a signed word of 64 bits holds it. -/
def inWord64? (n : Int) : Option Int :=
  if -Int.ofNat (Nat.pow 2 63) ≤ n ∧ n < Int.ofNat (Nat.pow 2 63) then some n else none

/-- Reads the text of an integer of 64 bits. -/
def integer? (text : String) : Option Int :=
  let (negative, digits) := splitSign text.toList
  (natural? digits).bind fun n => inWord64? (if negative then -n else n)

end FilterLang.Number
