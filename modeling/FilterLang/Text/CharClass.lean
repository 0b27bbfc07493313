import FilterLang.Unicode

/-!
# Character classes

The classes that the words and blanks of a filter are made of. They are those of Unicode, so a name may be written in
any script. Digits of number literals are the ten ASCII digits only (`Char.isDigit`).
-/

namespace FilterLang.Text

/-- White space of any kind: it separates tokens and means nothing else. -/
def isBlank (c : Char) : Bool := Unicode.inRanges Unicode.whiteSpace c.toNat

/-- A letter of any script. -/
def isAlphabetic (c : Char) : Bool := Unicode.inRanges Unicode.alphabetic c.toNat

/-- A digit or numeral of any script. -/
def isNumeric (c : Char) : Bool := Unicode.inRanges Unicode.numeric c.toNat

/-- The characters a word may begin with: letters and `_`. -/
def startsWord (c : Char) : Bool := isAlphabetic c || c == '_'

/-- The characters a word may go on with: letters, numerals and `_`. -/
def inWord (c : Char) : Bool := isAlphabetic c || isNumeric c || c == '_'

end FilterLang.Text
