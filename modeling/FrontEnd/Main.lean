-- SUMMARY: The program: reads the source file, runs, and writes what the run wrote.
import FrontEnd.Run

/-!
# The program

The file that a run asks for is read first, so the run itself is a function. It
writes to devices in memory, which are then handed to the streams of the
process.
-/

namespace FrontEnd

/-- The system's words for an error and its number, where the error keeps them. -/
def systemReason : IO.Error → String
  | .inappropriateType _ code reason | .resourceExhausted _ code reason
  | .resourceVanished code reason => reason ++ " (os error " ++ code.toNat.repr ++ ")"
  | e => toString e

def ReadFailure.ofError : IO.Error → ReadFailure
  | .noFileOrDirectory .. => .notFound
  | .permissionDenied .. => .permissionDenied
  | e => .other (systemReason e)

def readSource (path : String) : IO (Except ReadFailure String) := do
  try
    return decodeSource (← IO.FS.readBinFile path)
  catch e =>
    return .error (.ofError e)

/-- Write bytes to a stream of the process. -/
def deliver (stream : IO.FS.Stream) (bytes : ByteArray) : IO Unit := do
  stream.write bytes
  stream.flush

end FrontEnd

open FrontEnd in
def main (args : List String) : IO UInt32 := do
  let source ← match Run.sourcePath? args with
    | some path => readSource path
    | none => pure (.error .notFound)
  let stdout ← IO.getStdout
  let stderr ← IO.getStderr
  let (exit, console) := run args (fun _ => source) (← stdout.isTty) {}
  try
    deliver stdout console.out.contents
    deliver stderr console.err.contents
    return exit.status
  catch e =>
    let told := Run.tellFailure ⟨systemReason e⟩ {}
    try deliver stderr told.err.contents catch _ => pure ()
    return Exit.failure.status
