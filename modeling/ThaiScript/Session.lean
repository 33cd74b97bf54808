import ThaiScript.Console
import ThaiScript.ErrorCategory
import ThaiScript.Namespace
import ThaiScript.Outcome

/-!
# Sessions

A session translates a source and, if the parser accepts the text, runs it in a fresh namespace.
Every failure ends in an outcome, unless reporting it ends the process. The interpreter that runs
programs is a parameter: `M` is its state, which runs share, and `V` its values. What a session tells
the log is left out: neither an outcome nor what a script writes depends on it.
-/

namespace ThaiScript

/-- An exception as the session sees it: the name of its class, its own text, and itself. -/
structure Raised (V : Type) where
  category : Text
  text : Text
  exception : V

/-- What a user of a language is told of an exception. -/
def Raised.failure {V : Type} (r : Raised V) (l : Language) : RuntimeFailure :=
  ⟨r.category, localize l r.category r.text⟩

/-- What a script that asks to exit gives as its code. -/
inductive ExitCode
  /-- No code, or the value that stands for none. -/
  | absent
  /-- An integer, with the text of the value. -/
  | integer (n : Int) (shown : Text)
  | other (shown : Text)
  /-- The code cannot be read. -/
  | unreadable
deriving DecidableEq, Repr

/-- How a run of a script ends. -/
inductive Ending (V : Type)
  | completed
  | exited (code : ExitCode)
  | raised (r : Raised V)

/-- The state of the interpreter and the console. -/
structure World (M : Type) where
  machine : M
  console : Console

namespace World

variable {M : Type}

def deliverOut (w : World M) (t : Text) : World M :=
  { w with console := { w.console with out := w.console.out.deliver t } }

def deliverErr (w : World M) (t : Text) : World M :=
  { w with console := { w.console with err := w.console.err.deliver t } }

end World

/-- The steps of a session. One that ends the process tells the status that it ends with. -/
abbrev Session (M : Type) := EStateM Int (World M)

/-- An operation of the interpreter. One that raises an exception leaves behind what it did by then. -/
abbrev Operation (M V : Type) := EStateM (Raised V) (World M)

structure Interpreter (M V : Type) extends NamespaceParts (World M) (Raised V) V where
  parse : Text → Verdict
  /-- A new buffer for captured output. -/
  newBuffer : Operation M V V
  /-- Runs a text, whose globals are the dictionary at an address. -/
  run : Text → Address → World M → Ending V × World M
  /-- Hands an exception to the interpreter's own reporter, which may end the process. -/
  printTraceback : Raised V → Session M Unit
  /-- Passes on what the script wrote and still waits. -/
  flush : World M → World M
  /-- Everything that was written to a buffer. -/
  readBuffer : V → Operation M V Text

/-- Where the output of a script goes. -/
inductive Sink
  | stdout
  | capture
deriving DecidableEq, Repr

structure SessionOptions where
  language : Language
  traceback : Bool
deriving DecidableEq, Repr

def SessionOptions.initial : SessionOptions := ⟨.thai, false⟩

/-- Whether an integer can be the status of a process. -/
def isStatus (n : Int) : Bool := -2147483648 ≤ n ∧ n ≤ 2147483647

namespace ExitCode

/-- The status that a code stands for. -/
def status : ExitCode → Int
  | absent => 0
  | integer n _ => if isStatus n then n else 1
  | other _ => 1
  | unreadable => 1

/-- What is written to the error stream about a code that is no status. -/
def complaint? : ExitCode → Option Text
  | absent => none
  | integer n shown => if isStatus n then none else some shown
  | other shown => some shown
  | unreadable => none

end ExitCode

/-- Writes about a code that is no status to the error stream. -/
def World.complain {M : Type} (w : World M) (code : ExitCode) : World M :=
  match code.complaint? with
  | some shown => w.deliverErr (shown ++ "\n")
  | none => w

/-- A source that was translated and, if accepted, run. -/
structure Execution where
  translation : Translation
  /-- The captured output and the report line; empty when output is not captured. -/
  output : Text
  outcome : Outcome
deriving DecidableEq, Repr

namespace Interpreter

variable {M V : Type} (I : Interpreter M V) (o : SessionOptions)

/-- The outcome of an exception, with its traceback if asked for. -/
def failure (r : Raised V) : Session M Outcome := do
  if o.traceback then I.printTraceback r
  return .runtimeFailed (r.failure o.language)

/-- The outcome of a run. -/
def settle : Ending V → Session M Outcome
  | .completed => return .completed
  | .exited code => do
    modify (·.complain code)
    return .exited code.status
  | .raised r => I.failure o r

/-- The buffer of a run, if its output is captured. -/
def buffer : Sink → Operation M V (Option V)
  | .stdout => return none
  | .capture => return some (← I.newBuffer)

/-- The buffer of a run and the namespace that it starts from. -/
def prepare (sink : Sink) : Operation M V (Option V × Address) := do
  let buffer ← I.buffer sink
  let globals ← I.build buffer
  return (buffer, globals)

/-- An operation of the interpreter within a session, which goes on when it raises an exception. -/
def tried {α : Type} (op : Operation M V α) : Session M (Except (Raised V) α) := fun w =>
  match op w with
  | .ok a w => .ok (.ok a) w
  | .error r w => .ok (.error r) w

/-- Runs a text in a namespace, to the outcome of the run, and passes on what it wrote. -/
def runIn (globals : Address) (code : Text) : Session M Outcome := do
  let ending ← modifyGet (I.run code globals)
  let outcome ← I.settle o ending
  modify I.flush
  return outcome

/-- A failure of the session itself. Nothing is captured. -/
def giveUp (r : Raised V) : Session M (Text × Outcome) := do
  let outcome ← I.failure o r
  return ([], outcome)

/-- The captured output, behind a run with an outcome. When the buffer cannot be read, that failure
is the outcome. -/
def collect (buffer : Option V) (outcome : Outcome) : Session M (Text × Outcome) := do
  match buffer with
  | none => return ([], outcome)
  | some b =>
    match ← tried (I.readBuffer b) with
    | .ok text => return (text, outcome)
    | .error r => I.giveUp o r

/-- Runs a text in a namespace of its own. -/
def runCode (sink : Sink) (code : Text) : Session M (Text × Outcome) := do
  match ← tried (I.prepare sink) with
  | .error r => I.giveUp o r
  | .ok (buffer, globals) =>
    let outcome ← I.runIn o globals code
    I.collect o buffer outcome

/-- Reports an outcome: behind the captured output, or on the stream of the process. -/
def report (sink : Sink) (output : Text) (outcome : Outcome) : Session M Text := do
  match outcome.reportLine, sink with
  | none, _ => return output
  | some line, .stdout =>
    modify (·.deliverOut (line ++ "\n"))
    return output
  | some line, .capture => return output ++ line ++ "\n"

/-- Runs the text of a translation, if there is no objection to it. -/
def runTranslation (sink : Sink) (t : Translation) : Session M (Text × Outcome) :=
  match t.error with
  | some e => return ([], .translationFailed e)
  | none => I.runCode o sink t.code

/-- Translates a source, runs the text if the parser accepts it, and reports the outcome. -/
def attempt (sink : Sink) (source : Text) : Session M Execution := do
  let translation := Translation.of I.parse source
  let (output, outcome) ← I.runTranslation o sink translation
  let output ← report sink output outcome
  return ⟨translation, output, outcome⟩

/-- An attempt as the host of the process sees it: one that ends the process is an exit. -/
def execute (sink : Sink) (source : Text) (w : World M) : Execution × World M :=
  match I.attempt o sink source w with
  | .ok e w => (e, w)
  | .error status w => (⟨Translation.of I.parse source, [], .exited status⟩, w)

/-- Executes sources in turn, each with a sink of its own. -/
def executeAll (runs : List (Sink × Text)) : Session M (List Execution) :=
  runs.mapM fun (sink, source) => I.attempt o sink source

end Interpreter

end ThaiScript
