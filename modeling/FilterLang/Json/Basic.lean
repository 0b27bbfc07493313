import FilterLang.Number.Shortest

/-!
# JSON values

The documents that expressions, tokens and diagnostics are shown as. The members of an object are kept in the order in
which they are written.
-/

namespace FilterLang

/-- A JSON value. -/
inductive Json where
  /-- `null`. -/
  | null
  /-- `true` or `false`. -/
  | bool (value : Bool)
  /-- A whole number, written with its digits only. -/
  | integer (value : Int)
  /-- A number of double precision, by its sign and its magnitude. -/
  | real (negative : Bool) (magnitude : Number.Double)
  /-- A string. -/
  | string (value : String)
  /-- An array. -/
  | array (elements : List Json)
  /-- An object. -/
  | object (members : List (String × Json))
  deriving Repr

namespace Json

/-- Numbers from 0.00001 up to but not including 10^16 are written without an exponent. -/
def layout : Number.Layout := ⟨-5, 15⟩

/-- A number of double precision as text. -/
def realChars (negative : Bool) (magnitude : Number.Double) : List Char :=
  let digits :=
    if magnitude.significand = 0 then ['0', '.', '0'] else layout.write (Number.Shortest.digits magnitude)
  if negative then '-' :: digits else digits

/-- A character as it is written between double quotes. Control characters without a letter of their own are written
by their code in four hexadecimal digits. -/
def escapeChar (c : Char) : List Char :=
  match c with
  | '"' => ['\\', '"']
  | '\\' => ['\\', '\\']
  | '\x08' => ['\\', 'b']
  | '\x0c' => ['\\', 'f']
  | '\n' => ['\\', 'n']
  | '\r' => ['\\', 'r']
  | '\t' => ['\\', 't']
  | c =>
    if c.toNat < 0x20 then
      ['\\', 'u', '0', '0', Nat.digitChar (c.toNat / 16), Nat.digitChar (c.toNat % 16)]
    else [c]

/-- A quoted string in front of `k`. -/
def quoteOnto (text : String) (k : List Char) : List Char :=
  '"' :: (text.toList.flatMap escapeChar ++ '"' :: k)

end Json

end FilterLang
