import FilterLang.CommandLine.Run

/-!
# The program

Reads the input if it is needed, runs the program, and writes what the run leaves behind.
-/

open FilterLang CommandLine

namespace FilterLang.CommandLine

/-- How many bytes are read at a time. -/
def chunkSize : USize := 65536

/-- All bytes up to the end of a stream. -/
partial def readAll (stream : IO.FS.Stream) (bytes : ByteArray) : IO ByteArray := do
  let chunk ← stream.read chunkSize
  if chunk.isEmpty then return bytes else readAll stream (bytes ++ chunk)

/-- The input to work on. It is read only if it is asked for. -/
def inputFor (args : List String) : IO Input := do
  let stdin ← IO.getStdin
  match Invocation.ofArgs args with
  | .ok { expression := none, .. } =>
    if ← stdin.isTty then return .terminal else return .piped (← readAll stdin ByteArray.empty)
  | _ => return .terminal

/-- Writes what a run leaves behind. -/
def finish (completion : Completion) : IO UInt32 := do
  (← IO.getStderr).putStr completion.errors
  (← IO.getStdout).putStr completion.output
  return completion.exit.toUInt32

end FilterLang.CommandLine

/-- The program: refused arguments end it with the exit code 2. -/
def main (args : List String) : IO UInt32 := do
  match runArgs args (← inputFor args) with
  | .ok completion => finish completion
  | .error reason =>
    (← IO.getStderr).putStrLn ("error: " ++ reason.message)
    return 2
