import QueryAudit.CommandLine

/-!
# The program

Opens the paths that a command names, runs it, and writes what it comes to.
-/

namespace QueryAudit

/-- The wording of a failure of the system. -/
def whyFailed : IO.Error → String
  | .inappropriateType _ code details
  | .invalidArgument _ code details
  | .permissionDenied _ code details
  | .resourceExhausted _ code details => details ++ " (os error " ++ toString code ++ ")"
  | e => toString e

/-- What a failure to open a path means. -/
def openingOf : IO.Error → Opening
  | .noFileOrDirectory _ _ _ => .missing
  | .inappropriateType _ 21 _ | .invalidArgument _ 21 _ => .directory
  | e => .refused (whyFailed e)

def openFile (path : String) : IO Opening := do
  try
    let bytes ← IO.FS.readBinFile path
    return .file bytes.toList
  catch e => return openingOf e

/-- All of standard input, as it came in, up to its end or the first failure to read it. It is read
    before the run begins, so no report is written while there is input to wait for. -/
def readStandardInput : IO Source := do
  let input ← IO.getStdin
  let mut buffers : List (List UInt8) := []
  let mut failure : Option String := none
  repeat
    try
      let bytes ← input.read 65536
      if bytes.isEmpty then break
      buffers := bytes.toList :: buffers
    catch e =>
      failure := some (whyFailed e)
      break
  return .ofBuffers buffers.reverse failure

/-- Do what was recorded. Reads have been done before. -/
def perform : Event → IO Unit
  | .read _ => return ()
  | .write .out bytes => do
    let stream ← IO.getStdout
    stream.write ⟨bytes.toArray⟩
  | .write .diag bytes => do
    let stream ← IO.getStderr
    stream.write ⟨bytes.toArray⟩
  | .flush .out => do
    let stream ← IO.getStdout
    stream.flush
  | .flush .diag => do
    let stream ← IO.getStderr
    stream.flush

end QueryAudit

open QueryAudit

/-- Run the program: open the paths of its command, read standard input if the command asks for it,
    and then do what the run recorded, in its order. The run itself takes its input piece by piece
    and reports in between; here the pieces are all there before it, and only the order of what is
    written and flushed is kept. -/
def main (arguments : List String) : IO UInt32 := do
  let opened ← (CommandLine.pathsFor arguments).mapM fun path => return (path, ← openFile path)
  let standardInput ←
    if CommandLine.readsInputFor arguments then readStandardInput else pure (.ofBytes [])
  let done := run (CommandLine.openedAmong opened) standardInput arguments
  done.output.events.forM perform
  return done.status.toUInt32
