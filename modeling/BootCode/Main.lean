import BootCode.Console
/-!
# The command line program

Reads the options, then the program from the input file or from standard input, and prints the
report; the exit status is that of the session.
-/

namespace BootCode.Console

/-- How a failed read is described: by the system's number for the error when there is one. -/
def describeReadError (e : IO.Error) : String :=
  match e with
  | .noFileOrDirectory _ code details => osErrorMessage code.toNat details
  | .permissionDenied _ code details => osErrorMessage code.toNat details
  | .alreadyExists _ code details => osErrorMessage code.toNat details
  | .invalidArgument _ code details => osErrorMessage code.toNat details
  | .inappropriateType _ code details => osErrorMessage code.toNat details
  | .noSuchThing _ code details => osErrorMessage code.toNat details
  | .resourceExhausted _ code details => osErrorMessage code.toNat details
  | .otherError code details => osErrorMessage code.toNat details
  | .hardwareFault code details => osErrorMessage code.toNat details
  | e => toString e

/-- Reads the program text from a file, or from standard input when no file is named. -/
def readInput (path : Option String) : IO (Except String String) := do
  try
    match path with
    | some p => pure (.ok (← IO.FS.readFile p))
    | none => pure (.ok (← (← IO.getStdin).readToEnd))
  catch e => pure (.error (describeReadError e))

/-- Runs a session on the real command line, files and standard streams. -/
def runMain (args : List String) : IO UInt32 := do
  let session ← match start args with
    | .error s => pure s
    | .ok settings => do pure (finish settings (← readInput settings.inputPath))
  let out ← IO.getStdout
  out.putStr session.stdout
  out.flush
  let err ← IO.getStderr
  err.putStr session.stderr
  err.flush
  pure session.status.toUInt32

end BootCode.Console

def main (args : List String) : IO UInt32 :=
  BootCode.Console.runMain args
