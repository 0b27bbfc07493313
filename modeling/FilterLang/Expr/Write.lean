import FilterLang.Expr.Basic
import FilterLang.Text.Escape

/-!
# Writing into limited room

An expression is written character by character, into anything that takes characters. Writing stops at the first
character that is refused; what was taken before stays. A sink takes characters until its room is used up.
-/

namespace FilterLang

/-- Something that characters are written into. -/
structure Sink where
  /-- How many more characters are taken, or `none` if there is no limit. -/
  room : Option Nat
  /-- The characters taken so far. -/
  written : String
  deriving DecidableEq, Repr

namespace Sink

/-- An empty sink. -/
def empty (room : Option Nat) : Sink := ⟨room, ""⟩

/-- Writes one character. The error is the sink as it stood when it refused. -/
def put (s : Sink) (c : Char) : Except Sink Sink :=
  match s.room with
  | none => .ok ⟨none, s.written.push c⟩
  | some 0 => .error s
  | some (n + 1) => .ok ⟨some n, s.written.push c⟩

end Sink

namespace Expr

section Writers

variable {σ : Type} (put : σ → Char → Except σ σ)

mutual

/-- Writes the canonical text of an expression piece by piece. Each character is offered by `put`, which says what comes
of it: the state after it was taken, or as an error the state after it was refused. -/
def writeWith : Expr → σ → Except σ σ
  | .identifier name reserved, s => do
    let s ← if reserved then put s '@' else pure s
    name.toList.foldlM put s
  | .string value, s => do
    let s ← put s '\''
    let s ← (Text.escape value).toList.foldlM put s
    put s '\''
  | .integer text, s => text.toList.foldlM put s
  | .decimal text, s => text.toList.foldlM put s
  | .null, s => "null".toList.foldlM put s
  | .boolean value, s => (if value then "true" else "false").toList.foldlM put s
  | .list elements, s => do
    let s ← put s '['
    let s ← writeElements true elements s
    put s ']'
  | .binary _ op left right, s => do
    let s ← put s '('
    let s ← writeWith left s
    let s ← put s ' '
    let s ← op.toList.foldlM put s
    let s ← put s ' '
    let s ← writeWith right s
    put s ')'

/-- Writes elements of a list, a comma before each but the first. -/
def writeElements (first : Bool) : List Expr → σ → Except σ σ
  | [], s => pure s
  | e :: es, s => do
    let s ← if first then pure s else put s ','
    let s ← writeWith e s
    writeElements false es s

end

end Writers

/-- Writes the canonical text of an expression into a sink. -/
def writeTo (e : Expr) (s : Sink) : Except Sink Sink := writeWith Sink.put e s

end Expr

end FilterLang
