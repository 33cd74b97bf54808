import ThaiScript.CommandLine.FrontEnd
import ThaiScript.Encoding.Script
import ThaiScript.FileTree
import ThaiScript.Session
import ThaiScript.Translation.Json

/-!
# The command line

A call of the program reads its arguments, its environment, its log filter and the script, in this
order, and then writes the translation or runs it. The first of these that fails ends the call with one
line. Reading the script is the only step that needs the outside. On its way a call tells the log what it
does; what a session tells the log while it runs a script is left out.
-/

namespace ThaiScript.CommandLine

/-- What a call of the program leaves behind. -/
structure Reply where
  stdout : Text
  stderr : Text
  status : Nat
deriving DecidableEq, Repr

def usage : Text := "Usage: thai-python <script.py>\n"

def versionText : Text := "thai-python 0.1.0\n"

def helpText : Text :=
  "Run Python written with Thai keywords\n\n" ++ usageLine ++ "\n\n" ++
  "Arguments:\n" ++
  "  [SCRIPT]  Thai Python script to run\n\n" ++
  "Options:\n" ++
  "      --emit             Print the translated Python instead of running it\n" ++
  "      --format <FORMAT>  Output format for --emit [default: python] [possible values: python, json]\n" ++
  "      --lang <LANG>      Language for runtime error messages [possible values: th, en]\n" ++
  "      --traceback        Print a full traceback after a runtime error\n" ++
  "  -v, --verbose          Debug logging on stderr\n" ++
  "  -h, --help             Print help\n" ++
  "  -V, --version          Print version\n"

/-! ### Starting -/

/-- Why a call ends before its script is translated. -/
inductive StartupError
  | settings (e : SettingsError)
  | logFilter (filter : Text) (causes : List Text)
  | missingScript (path : Text)
  | unreadableScript (path : Text) (e : FileError)
deriving DecidableEq, Repr

namespace StartupError

def message : StartupError → Text
  | settings e => e.message
  | logFilter f causes => Text.join ": " (("invalid log filter '" ++ f ++ "'") :: causes)
  | missingScript path => "Could not find file '" ++ path ++ "'"
  | unreadableScript path e => "reading " ++ path ++ ": " ++ e.describe

def line (e : StartupError) : Text := "Error: " ++ e.message ++ "\n"

def reply (e : StartupError) : Reply := ⟨e.line, [], 1⟩

end StartupError

/-- The settings of the environment, which options override. -/
def Options.settings (o : Options) (env : Settings.Environment) : Except SettingsError Settings := do
  let s ← Settings.ofEnvironment env
  return {
    language := o.language.getD s.language
    logFilter := if o.verbose then Settings.verboseLogFilter else s.logFilter
    traceback := o.traceback || s.traceback }

/-- The text of the script at a path. -/
def scriptText (path : Text) : Except FileError Bytes → Except StartupError Text
  | .ok bs => .ok (decodeScript bs)
  | .error e =>
    .error (if e.number = FileError.notFound.number then .missingScript path
      else .unreadableScript path e)

/-! ### Steps of a call -/

/-- What a call has written so far. -/
structure Streams where
  stdout : Text
  stderr : Text
  /-- The number of events that the log was told. -/
  events : Nat
deriving DecidableEq, Repr

namespace Streams

def empty : Streams := ⟨[], [], 0⟩

def write (s : Streams) : Target → Text → Streams
  | .stdout, t => { s with stdout := s.stdout ++ t }
  | .stderr, t => { s with stderr := s.stderr ++ t }

def reply (s : Streams) (status : Nat) : Reply := ⟨s.stdout, s.stderr, status⟩

end Streams

abbrev Call := EStateM StartupError Streams

def write (target : Target) (t : Text) : Call Unit := modify (·.write target t)

def Log.tell (log : Log) (e : LogEvent) : Call Unit :=
  modify fun s => { s.write log.target (log.line s.events e) with events := s.events + 1 }

/-- Tells the log of bytes that stand for no text. -/
def Log.tellFaults (log : Log) (path : Text) (bs : Bytes) : Call Unit := do
  if hasFaults bs then log.tell (.replaced path (encodingName bs))

/-- Reads the script at a path, where `found` is what is there. -/
def readScript (log : Log) (path : Text) (found : Except FileError Bytes) : Call Text := do
  match scriptText path found with
  | .error e => throw e
  | .ok source =>
    found.toOption.forM (log.tellFaults path)
    return source

/-- Translates a source. -/
def translate (log : Log) (parse : Text → Verdict) (source : Text) : Call Translation := do
  log.tell (.shielded (Shielded.of source).table.length)
  let t := Translation.of parse source
  match t.error with
  | none => log.tell (.validated (Utf8.encode t.code).length)
  | some e => log.tell (.rejected e)
  return t

/-- Writes a translation, to the status of the process. -/
def emit (paint : Text → Text) (format : EmitFormat) (t : Translation) : Call Nat := do
  match format with
  | .python =>
    write .stdout t.code
    match t.error with
    | none => pure ()
    | some e => write .stderr (paint e.display ++ "\n")
  | .json => write .stdout (Json.ofTranslation t ++ "\n")
  return if t.isOk then 0 else 1

/-- The status that a process shows for a code. -/
def processStatus (code : Int) : Nat := (code % 256).toNat

variable {M V : Type}

/-- Runs a script, to the status of the process. What still waits when the process ends is lost. -/
def runScript (I : Interpreter M V) (s : Settings) (source : Text) (m : M) : Call Nat := do
  let (e, w) := I.execute ⟨s.language, s.traceback⟩ .stdout source ⟨m, .empty⟩
  write .stdout w.console.out.delivered
  write .stderr w.console.err.delivered
  return processStatus e.outcome.exitStatus

/-! ### The whole call -/

/-- A call that has an answer, or goes on when it knows what is at a path. -/
inductive Plan
  | reply (r : Reply)
  | read (path : Text) (next : Except FileError Bytes → Reply)

namespace FrontEnd

variable (f : FrontEnd)

/-- The log with a filter, if that is in order. It writes to the error stream. -/
def log (filter : Text) : Except StartupError Log :=
  match f.filterFault? filter with
  | some causes => .error (.logFilter filter causes)
  | none => .ok ⟨.stderr, f.logLine filter⟩

/-- The settings and the log of a call. -/
def startUp (o : Options) (env : Settings.Environment) : Except StartupError (Settings × Log) := do
  let s ← match o.settings env with
    | .ok s => pure s
    | .error e => throw (.settings e)
  return (s, ← f.log s.logFilter)

variable (I : Interpreter M V) (start : Language → M)

/-- The last stages of a call: the script is read, and its translation is written, or it is run. `start`
is the state of the interpreter with its reports in a language. -/
def perform (o : Options) (env : Settings.Environment) (s : Settings) (log : Log) (path : Text)
    (found : Except FileError Bytes) : Call Nat := do
  let source ← readScript log path found
  log.tell (.loaded path (Utf8.encode source).length)
  if o.emit then
    emit (f.paint env) (o.format.getD .python) (← translate log I.parse source)
  else
    runScript I s source (start s.language)

/-- The rest of a call, when it is known what is at the path of its script. -/
def answer (o : Options) (env : Settings.Environment) (s : Settings) (log : Log) (path : Text)
    (found : Except FileError Bytes) : Reply :=
  match f.perform I start o env s log path found .empty with
  | .ok status streams => streams.reply status
  | .error e streams => (streams.write .stdout e.line).reply 1

/-- The part of a call before the script is read. -/
def plan (env : Settings.Environment) (args : List Text) : Plan :=
  match f.request args with
  | .help => .reply ⟨helpText, [], 0⟩
  | .version => .reply ⟨versionText, [], 0⟩
  | .mistake e => .reply ⟨[], e.message, 2⟩
  | .start o =>
    match o.script with
    | none => .reply ⟨usage, [], 1⟩
    | some path =>
      match f.startUp o env with
      | .error e => .reply e.reply
      | .ok (s, log) => .read path (f.answer I start o env s log path)

/-- A call of the program among files. -/
def run (env : Settings.Environment) (read : Text → Except FileError Bytes) (args : List Text) : Reply :=
  match f.plan I start env args with
  | .reply r => r
  | .read path next => next (read path)

end FrontEnd

/-- A call of the program in a process whose output stream is no terminal. -/
def run (I : Interpreter M V) (start : Language → M) (env : Settings.Environment)
    (read : Text → Except FileError Bytes) (args : List Text) : Reply :=
  (FrontEnd.standard false).run I start env read args

end ThaiScript.CommandLine
