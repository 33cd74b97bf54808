import ThaiScript.Encoding.Declared
import ThaiScript.Machine.Start
import ThaiScript.Program.Build
import ThaiScript.Program.Depth
import ThaiScript.Program.Inspection

/-!
# The interpreter

The machine as an interpreter for sessions: it parses texts, makes buffers and runs programs. A text
is read again from its bytes before it runs, so that an encoding that it declares takes effect.
-/

namespace ThaiScript.Machine

open Program Run

/-! ### Parsing -/

/-- The name of a text that is only parsed. -/
def parsedName : Text := "<unknown>"

/-- The name of a text that runs. -/
def runName : Text := "<string>"

/-- How many levels of a program count as much as a body that runs. -/
def levelsPerBody : Nat := 3

/-- Whether a program is too deep to be gone through inside of a number of bodies. -/
def isTooDeep (bodies depth : Nat) : Bool := levelsPerBody * depthLimit < levelsPerBody * bodies + depth

/-- How many bodies the parser runs in by itself. -/
def parserBodies : Nat := 2

/-- What the parser says about a text inside of a number of bodies. -/
def verdictOn (bodies : Nat) (t : Text) : Verdict :=
  match Program.parse t with
  | .ok program =>
    if isTooDeep (bodies + parserBodies) (Depth.module 1 program) then
      .rejected "maximum recursion depth exceeded during ast construction"
    else .accepted
  | .error f => .rejected (f.message parsedName)

/-- The module that the parser is in. -/
def parserModule : Text := "ast"

def parseWith (s : Setup) (t : Text) : Verdict :=
  if parserModule ∈ s.halted then
    .unavailable ("ModuleNotFoundError: " ++ haltedMessage parserModule)
  else s.verdict.getD (verdictOn s.depth t)

/-! ### Running -/

def exceptionClassOf : FaultKind → ExceptionClass
  | .structure_ => .syntaxError
  | .indentation => .indentationError
  | .tabs => .tabError
  | .value => .valueError
  | .memory => .memoryError

/-- The number of bytes before the first null character. -/
def nulPosition? (t : Text) : Option Nat :=
  if '\x00' ∈ t then some (Utf8.encode (t.takeWhile (· ≠ '\x00'))).length else none

/-- Shows a warning about a text that is going to run. -/
def warn (line : Nat) (w : Warning) : Run Unit :=
  writeError standard
    (runName ++ ":" ++ Text.ofNat line ++ ": SyntaxWarning: " ++ w.message ++ "\n")

/-- The program that a text is when it runs. -/
def compile (t : Text) : Run (List Stmt) := do
  match nulPosition? t with
  | some i => valueError ("nul byte found in provided data at position: " ++ Text.ofNat i)
  | none => pure ()
  let (t, isDeclared) ← match Declared.reread (Text.unifyLines t) with
    | .ok read => pure read
    | .error p => raiseFault .syntaxError p.message runName 0 none
  match Program.parse t with
  | .error f =>
    if f.cause = .outOfMemory then failWith .memoryError []
    let excerpt := if isDeclared then f.excerpt.map Excerpt.inCharacters else f.excerpt
    raiseFault (exceptionClassOf f.cause.kind) f.cause.message runName f.line excerpt
  | .ok program =>
    if isTooDeep (← state).depth (Depth.module 0 program) then
      fail .recursionError "maximum recursion depth exceeded during compilation"
    match Scope.flaw? program with
    | some (line, f) => raiseFault .syntaxError f.message runName line none
    | none => pure ()
    for f in Inspection.module program do
      match f with
      | .warning line w => warn line w
      | .flaw line f => raiseFault .syntaxError f.message runName line none
    return program

def moduleFrame (globals : Ref) : Frame where
  name := "<module>"
  qualifier := []
  place := .globals
  globals := globals
  names := []
  globalNames := []
  enclosing := []
  owner := none
  first := none
  settled := false

def runProgram (t : Text) (globals : Ref) : Run Unit := do
  let program ← compile t
  let f := moduleFrame globals
  let _ ← framed f (block standard f program)

/-- The code that a script asks to exit with. -/
def exitCode (r : Ref) : Run ExitCode := do
  let read : Run (Option Value) := do
    return some (← getAttribute standard (.ref r) "code")
  let code ← tryCatch read fun s =>
    match s with
    | .raised _ => return none
    | .exhausted => throw s
  match code with
  | none => return .unreadable
  | some .none => return .absent
  | some v =>
    let number ← tryCatch (index? standard v) fun s =>
      match s with
      | .raised _ => return none
      | .exhausted => throw s
    match number with
    | none => return .other (← printable standard v)
    | some n =>
      let shown ← if isStatus n then pure [] else printable standard v
      return .integer n shown

/-- An exception as a session sees it. -/
def describe (r : Ref) (e : ExceptionObject) : Run (Raised Value) := do
  let text ← printable standard (.ref r)
  return ⟨← classQualname e.cls, text, .ref r⟩

def endingOf (r : Ref) : Run (Ending Value) := do
  match ← exceptionObject r with
  | none => return .completed
  | some e =>
    if e.kind.isA .systemExit then return .exited (← exitCode r)
    else return .raised (← describe r e)

def runToEnd (t : Text) (globals : Ref) : Run (Ending Value) := do
  let ended : Except Signal Unit ←
    tryCatch (do return .ok (← runProgram t globals)) fun s => return .error s
  match ended with
  | .ok () => return .completed
  | .error (.raised r) => endingOf r
  | .error .exhausted => return .raised ⟨"MemoryError", [], .none⟩

/-- Runs an operation, whose failure changes nothing but the state. -/
def settled (op : Run Unit) (w : World State) : World State :=
  match op.run w with
  | .ok _ w => w
  | .error _ w => w

/-! ### Reporting -/

/-- The exception object for an exception, which may not have one yet. -/
def exceptionRef (r : Raised Value) : Run Ref := do
  match r.exception with
  | .ref e => return e
  | _ =>
    let c := (ExceptionClass.ofName? (String.ofList r.category)).getD .exception
    newException (.exception c) c [.ofText r.text]

/-- Whether an exception asks to exit. -/
def asksToExit (r : Ref) : Run Bool := do
  return (← exceptionObject r).any (·.kind.isA .systemExit)

/-- The status that an integer stands for when the process ends with it: its last 32 bits, unless
it has more than 64. -/
def statusOfInt (n : Int) : Int :=
  if -2 ^ 63 ≤ n ∧ n < 2 ^ 63 then n.bmod (2 ^ 32) else -1

/-- Whether a stream says that it is closed. -/
def isClosed (v : Value) : Run Bool := do
  let ask : Run Bool := do truth standard (← getAttribute standard v "closed")
  tryCatch ask fun s =>
    match s with
    | .raised _ => return false
    | .exhausted => throw s

/-- Passes on what waits in a stream of the system module, unless it is closed or none; whether this
went well. -/
def flushAtEnd (name : Text) : Run Bool := do
  match ← systemValue? name with
  | none | some .none => return true
  | some v =>
    if ← isClosed v then return true
    let flush : Run Bool := do
      let _ ← standard.call (← getAttribute standard v "flush") [] []
      return true
    tryCatch flush fun s =>
      match s with
      | .raised _ => return false
      | .exhausted => throw s

/-- The status of a process that ends although it could not pass on what waits. -/
def flushFailedStatus : Int := 120

/-- Ends the process for an exception that asks to exit, with its code or, if that cannot be read,
with itself. What is no integer is told on the error stream. Nothing is left waiting. -/
def leave (r : Ref) : Run Int := do
  let read : Run Value := getAttribute standard (.ref r) "code"
  let code ← tryCatch read fun s =>
    match s with
    | .raised _ => return .ref r
    | .exhausted => throw s
  let status ← match ← content code with
    | .none => pure 0
    | .bool b => pure (if b then 1 else 0)
    | .int n _ => pure (statusOfInt n)
    | _ =>
      let shown ← textOr standard [] code
      match ← systemValue? "stderr" with
      | none | some .none => modify (·.deliverErr (shown ++ "\n"))
      | some _ =>
        writeError standard shown
        writeError standard "\n"
      pure 1
  let out ← flushAtEnd "stdout"
  let err ← flushAtEnd "stderr"
  flushStream false
  flushStream true
  return if out && err then status else flushFailedStatus

/-- Reports an exception through the reporter that is installed. One that fails is reported itself,
and the exception after it. An exception that asks to exit, or a reporter that does, ends the process
instead, with the status that is returned. -/
def reportThrough (e : Ref) : Run (Option Int) := do
  if ← asksToExit e then return some (← leave e)
  let v := Value.ref e
  match ← systemValue? "excepthook" with
  | none =>
    writeError standard "sys.excepthook is missing\n"
    displayException standard v
    return none
  | some hook =>
    let call : Run (Option Ref) := do
      let _ ← standard.call hook [.cls (← classOf v), v, .none] []
      return none
    let failed ← tryCatch call fun s =>
      match s with
      | .raised r => return some r
      | .exhausted => throw s
    match failed with
    | none => return none
    | some r =>
      if ← asksToExit r then return some (← leave r)
      writeError standard "Error in sys.excepthook:\n"
      displayException standard (.ref r)
      writeError standard "\nOriginal exception was:\n"
      displayException standard v
      return none

/-! ### Operations -/

/-- What is told of an operation that reached the bound on the length of runs. -/
def outOfMemory : Raised Value := ⟨"MemoryError", [], .none⟩

/-- An exception that an operation raised, as a session sees it. -/
def raisedBy (r : Ref) : Run (Raised Value) := do
  match ← exceptionObject r with
  | some e => describe r e
  | none => return outOfMemory

/-- An operation as a session sees it. -/
def operation {α : Type} (op : Run α) : Operation State Value α := fun w =>
  match op w with
  | .ok a w => .ok a w
  | .error .exhausted w => .error outOfMemory w
  | .error (.raised r) w =>
    match raisedBy r w with
    | .ok told w => .error told w
    | .error _ w => .error outOfMemory w

/-! ### Namespaces -/

/-- The dictionary of a module. What is no module has no names. -/
def moduleDictionary (v : Value) : Run Ref := do
  match ← objectOf v with
  | .module _ names => return names
  | _ => alloc (.dict .empty)

def copyDictionary (r : Ref) : Run Ref := do alloc (.dict (← entries r))

def binder : Run Value := do getAttribute standard (← importModule "functools") "partial"

def bindTo (binder print buffer : Value) : Run Value :=
  standard.call binder [print] [("file".toList, buffer)]

/-! ### Buffers and streams -/

def newBuffer : Run Value := do
  standard.call (← getAttribute standard (← importModule "io") "StringIO") [] []

/-- A text that code points stand for. -/
def readable (p : Points) : Except (Raised Value) Text :=
  match p.surrogateRun? with
  | none => .ok p.lossy
  | some (i, n) =>
    .error ⟨"UnicodeEncodeError", encodeFailure "utf-8" p i (i + n) "surrogates not allowed", .none⟩

/-- The code points of a value that is a string. -/
def pointsOf (v : Value) : Run Points := do
  match ← content v with
  | .str p _ => return p
  | _ => typeError ("'" ++ (← typeName v) ++ "' object cannot be converted to 'PyString'")

def readBuffer (v : Value) : Operation State Value Text := do
  let p ← operation (do
    pointsOf (← standard.call (← getAttribute standard v "getvalue") [] []))
  match readable p with
  | .ok t => return t
  | .error r => throw r

/-- Asks a stream of the system module to pass on what waits. -/
def flushNamed (name : Text) : Run Unit := do
  match ← systemValue? name with
  | none => return
  | some v =>
    let flush : Run Unit := do
      let _ ← standard.call (← getAttribute standard v "flush") [] []
    tryCatch flush fun s =>
      match s with
      | .raised _ => return
      | .exhausted => throw s

def flushStreams : Run Unit := do
  if "sys".toList ∈ (← state).halted then return
  flushNamed "stdout"
  flushNamed "stderr"

def interpreter (s : Setup) : Interpreter State Value where
  builtins := operation (importModule "builtins")
  dictionary v := operation (moduleDictionary v)
  copy r := operation (copyDictionary r)
  set r name v := operation (modifyEntries r (·.set name v))
  ask v name := operation (getAttribute standard v name)
  ofText := Value.ofText
  binder := operation binder
  bindTo f print buffer := operation (bindTo f print buffer)
  parse := parseWith s
  newBuffer := operation newBuffer
  run := fun t globals w =>
    match (runToEnd t globals).run w with
    | .ok ending w => (ending, w)
    | .error _ w => (.raised outOfMemory, w)
  printTraceback := fun r w =>
    match (do reportThrough (← exceptionRef r)).run w with
    | .ok none w => .ok () w
    | .ok (some status) w => .error status w
    | .error _ w => .ok () w
  flush := settled flushStreams
  readBuffer := readBuffer

/-- The world before any program has run. -/
def startWorld (s : Setup) : World State := ⟨State.start s, .empty⟩

end ThaiScript.Machine
