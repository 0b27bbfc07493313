/-!
# Text without control sequences

A text may hold control sequences, which tell a terminal what to do and are not shown. Where a text is written for
other readers than a terminal, they are removed, together with the control characters that show nothing.

## The model

An escape character begins a sequence, and the characters after it decide of what kind it is. An escape sequence and a
control sequence end with their final character. A string, which a device or an application is to read, ends at the
byte `9C` of its encoding; an operating system command ends at the bell. Everywhere the characters cancel and
substitute end a sequence, and another escape character begins a new one.

Tab, line feed, form feed and carriage return are shown even inside an escape sequence or a control sequence, though
not inside a string. What follows such a character is shown as well, up to the next character that shows nothing, and
there the sequence goes on.
-/

namespace FilterLang.Text.ControlSequence

/-- The part of a control sequence that a text has come to. -/
inductive Place where
  /-- Outside of all sequences. -/
  | text
  /-- Right after the escape character. -/
  | escape
  /-- In an escape sequence, before its final character. -/
  | escapeRest
  /-- In a control sequence, before its final character. -/
  | control
  /-- At the start of a device control string. -/
  | deviceStart
  /-- In the parameters of a device control string. -/
  | deviceParameters
  /-- Between the parameters and the final character of the head of a device control string. -/
  | deviceRest
  /-- In a string that ends at the byte `9C`. -/
  | string
  /-- In an operating system command. -/
  | command
  deriving DecidableEq, Repr

/-- Whether the code of a character lies in a range. -/
def within (first last : Nat) (c : Char) : Bool := first ≤ c.toNat && c.toNat ≤ last

/-- The controls that lay text out: tab, line feed, form feed and carriage return. -/
def isLayout (c : Char) : Bool := c == '\t' || c == '\n' || c == '\x0c' || c == '\r'

/-- The characters that are shown outside of sequences: all but controls, and the controls that lay text out. -/
def isShown (c : Char) : Bool := isLayout c || (!within 0x00 0x1f c && c != '\x7f')

/-- Whether the encoding of a character holds the byte that ends a string. -/
def endsString (c : Char) : Bool := (String.utf8EncodeChar c).contains 0x9c

namespace Place

/-- The place after the character that follows an escape character. -/
def afterEscape (c : Char) : Place :=
  if within 0x20 0x2f c then .escapeRest
  else if c = '[' then .control
  else if c = ']' then .command
  else if c = 'P' then .deviceStart
  else if c = 'X' ∨ c = '^' ∨ c = '_' then .string
  else if within 0x30 0x7e c then .text
  else .escape

/-- The place after a character. -/
def next (place : Place) (c : Char) : Place :=
  if c = '\x1b' then .escape
  else if c = '\x18' ∨ c = '\x1a' then .text
  else
    match place with
    | .text => .text
    | .escape => afterEscape c
    | .escapeRest => if within 0x30 0x7e c then .text else .escapeRest
    | .control => if within 0x40 0x7e c then .text else .control
    | .deviceStart =>
      if within 0x20 0x2f c then .deviceRest
      else if within 0x30 0x3f c then .deviceParameters
      else if within 0x40 0x7e c then .string
      else .deviceStart
    | .deviceParameters =>
      if within 0x20 0x2f c then .deviceRest
      else if within 0x3c 0x7e c then .string
      else .deviceParameters
    | .deviceRest => if within 0x30 0x7e c then .string else .deviceRest
    | .string => if endsString c then .text else .string
    | .command => if c = '\x07' then .text else .command

/-- The sequences in which the controls that lay text out are shown. -/
def showsLayout : Place → Bool
  | .escape => true
  | .escapeRest => true
  | .control => true
  | _ => false

end Place

/-- How far a text has been read. -/
structure State where
  /-- The part of a control sequence it has come to. -/
  place : Place
  /-- Whether the next character is shown, provided that it shows anything. -/
  shows : Bool
  deriving DecidableEq, Repr

namespace State

/-- Characters are shown outside of sequences only. -/
def ofPlace (place : Place) : State := ⟨place, place == .text⟩

/-- Before anything is read. -/
def start : State := ofPlace .text

/-- Whether a character is shown. -/
def shown (s : State) (c : Char) : Bool := if s.shows then isShown c else s.place.showsLayout && isLayout c

/-- The state after a character. A shown character beyond ASCII ends any sequence that was interrupted. -/
def next (s : State) (c : Char) : State :=
  if s.shown c then
    if c.toNat < 0x80 then ⟨s.place, true⟩ else start
  else ofPlace (s.place.next c)

end State

/-- The characters that are shown of a text that has been read up to here. -/
def removeFrom (s : State) : List Char → List Char
  | [] => []
  | c :: cs => if s.shown c then c :: removeFrom (s.next c) cs else removeFrom (s.next c) cs

/-- A text without its control sequences and without the controls that show nothing. -/
def remove (text : String) : String := String.ofList (removeFrom .start text.toList)

end FilterLang.Text.ControlSequence
