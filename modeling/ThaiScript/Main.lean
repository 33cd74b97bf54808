import ThaiScript.CommandLine.Run
import ThaiScript.Machine.Interpreter

/-!
# The program

Runs a script that is written with Thai words, or writes its translation.
-/

namespace ThaiScript

open CommandLine

/-- The variables that a call looks at. -/
def readVariables : List Text := [
  Settings.languageVariable, Settings.logVariable, Settings.tracebackVariable, forcedColourVariable,
  noColourVariable, colourVariable]

def readEnvironment : IO Settings.Environment := do
  let values ← readVariables.mapM fun name => do
    return (name, (← IO.getEnv (Text.toString name)).map String.toList)
  return fun name => (values.lookup name).join

def fileError : IO.Error → FileError
  | .noFileOrDirectory .. => .notFound
  | .inappropriateType _ code details => ⟨code.toNat, details.toList⟩
  | .permissionDenied _ code details => ⟨code.toNat, details.toList⟩
  | e => ⟨0, (toString e).toList⟩

def readFile (path : Text) : IO (Except FileError Bytes) := do
  try
    return .ok ((← IO.FS.readBinFile (Text.toString path)).toList.map UInt8.toNat)
  catch e => return .error (fileError e)

def answerCall (args : List Text) : IO Reply := do
  let env ← readEnvironment
  let setup := Machine.Setup.standard
  let start (l : Language) := Machine.State.start { setup with reporter := some l }
  let isTerminal ← (← IO.getStdout).isTty
  match (FrontEnd.standard isTerminal).plan (Machine.interpreter setup) start env args with
  | .reply r => return r
  | .read path next => return next (← readFile path)

end ThaiScript

open ThaiScript in
def main (args : List String) : IO UInt32 := do
  let r ← answerCall (args.map String.toList)
  IO.print (Text.toString r.stdout)
  (← IO.getStdout).flush
  IO.eprint (Text.toString r.stderr)
  return r.status.toUInt32
