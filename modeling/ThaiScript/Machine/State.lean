import ThaiScript.FileTree
import ThaiScript.Machine.Value
import ThaiScript.Session

/-!
# Running programs

A running program changes the heap and the console and ends each step with an answer or with an
exception that it raises. The operations of values call each other in all directions, so each is
defined over an `Evaluator`, which holds the few that all others need.
-/

namespace ThaiScript.Machine

open Program

structure State where
  heap : Array Object
  /-- The exceptions that are being handled, innermost first. -/
  handled : List Ref
  /-- The bodies that are running, innermost first. -/
  frames : List Frame
  /-- How many bodies and operations are running inside each other. -/
  depth : Nat
  /-- How many values got an identity of their own. -/
  numbered : Nat
  /-- The objects whose text is being made. -/
  showing : List Ref
  /-- The dictionary of the system module. -/
  system : Ref
  /-- The dictionary of the builtins. -/
  builtins : Ref
  modules : Dictionary Value
  /-- The modules whose import fails. -/
  halted : List Text
  /-- The language of the installed reporter of exceptions. -/
  language : Language
  files : FileTree

/-- Why a step gives no answer. -/
inductive Signal
  | raised (e : Ref)
  /-- The bound on the length of runs is reached. -/
  | exhausted

abbrev Run := EStateM Signal (World State)

structure Evaluator where
  /-- A bound on the rounds of a loop. -/
  rounds : Nat
  /-- Runs the body of a function to its answer. -/
  run : Frame → Body → Run Value
  call : Value → List Value → Dictionary Value → Run Value
  repr : Value → Run Points
  /-- Asks a generator for its next item. -/
  resume : Ref → Run (Option Value)
  /-- Whether two values are the same or compare equal. -/
  equal : Value → Value → Run Bool
  compare : CompareOp → Value → Value → Run Value

namespace Run

def state : Run State := return (← get).machine

def modifyState (f : State → State) : Run Unit := modify fun w => { w with machine := f w.machine }

/-! ### The heap -/

def alloc (o : Object) : Run Ref :=
  modifyGet fun w =>
    (w.machine.heap.size, { w with machine := { w.machine with heap := w.machine.heap.push o } })

def new (o : Object) : Run Value := return .ref (← alloc o)

def object (r : Ref) : Run Object := return (← get).machine.heap.getD r .plain

def modifyObject (r : Ref) (f : Object → Object) : Run Unit :=
  modify fun w =>
    { w with machine := { w.machine with heap := w.machine.heap.modify r f } }

def setObject (r : Ref) (o : Object) : Run Unit := modifyObject r fun _ => o

/-- The object of a value, if it has one. -/
def objectOf (v : Value) : Run Object :=
  match v with
  | .ref r => object r
  | _ => return .plain

def newList (vs : List Value) : Run Value := new (.list vs.toArray)

def newDict (es : Entries) : Run Value := new (.dict es)

def entries (r : Ref) : Run Entries := do
  match ← object r with
  | .dict es => return es
  | _ => return .empty

def modifyEntries (r : Ref) (f : Entries → Entries) : Run Unit :=
  modifyObject r fun o =>
    match o with
    | .dict es => .dict (f es)
    | o => o

def exceptionObject (r : Ref) : Run (Option ExceptionObject) := do
  match ← object r with
  | .exception e => return some e
  | _ => return none

def modifyException (r : Ref) (f : ExceptionObject → ExceptionObject) : Run Unit :=
  modifyObject r fun o =>
    match o with
    | .exception e => .exception (f e)
    | o => o

/-! ### Raising -/

/-- Takes an exception out of the chain of contexts that starts at another. The chain is followed for
as many steps as there are objects. -/
def unlink (e : Ref) : (steps : Nat) → Ref → Run Unit
  | 0, _ => return
  | steps + 1, r => do
    match ← exceptionObject r with
    | some x =>
      match x.context with
      | some c => if c = e then modifyException r ({ · with context := none }) else unlink e steps c
      | none => return
    | none => return

/-- Raises an exception, in the context of the exception that is being handled. -/
def raise {α : Type} (e : Ref) : Run α := do
  let s ← state
  match s.handled with
  | h :: _ =>
    if h ≠ e then
      unlink e s.heap.size h
      modifyException e ({ · with context := some h })
  | [] => pure ()
  throw (.raised e)

/-- The attributes that exceptions of a class have, before they are made with arguments. -/
def emptySlots (c : ExceptionClass) : Dictionary Value :=
  let names : List String :=
    if c.isA .systemExit then ["code"]
    else if c.isA .stopIteration then ["value"]
    else if c.isA .importError then ["msg", "name", "path"]
    else if c.isA .nameError then ["name"]
    else if c.isA .attributeError then ["name", "obj"]
    else if c.isA .osError then ["errno", "strerror", "filename", "filename2"]
    else if c.isA .syntaxError then
      ["msg", "filename", "lineno", "offset", "text", "end_lineno", "end_offset", "print_file_and_line"]
    else if c.isA .unicodeEncodeError || c.isA .unicodeDecodeError then
      ["encoding", "object", "start", "end", "reason"]
    else if c.isA .unicodeTranslateError then ["object", "start", "end", "reason"]
    else if c.isA .baseExceptionGroup then ["message", "exceptions"]
    else []
  names.map fun n => (n.toList, Value.none)

/-- The attribute of an exception that is made with arguments alone. -/
def slotFrom (args : List Value) (name : Text) : Value :=
  let only : Value := match args with
    | [v] => v
    | _ => .none
  if name = "code".toList then
    match args with
    | _ :: _ :: _ => .tuple args
    | _ => only
  else if name = "value".toList then args.headD .none
  else if name = "msg".toList then only
  else .none

def exceptionOf (c : ExceptionClass) (args : List Value) : ExceptionObject where
  cls := .exception c
  kind := c
  args := args
  slots := (emptySlots c).map fun e => (e.1, slotFrom args e.1)
  attrs := []
  cause := none
  context := none
  suppressContext := false
  trace := []

def fail {α : Type} (c : ExceptionClass) (message : Text) : Run α := do
  raise (← alloc (.exception (exceptionOf c [.ofText message])))

def failWith {α : Type} (c : ExceptionClass) (args : List Value) : Run α := do
  raise (← alloc (.exception (exceptionOf c args)))

def typeError {α : Type} (message : Text) : Run α := fail .typeError message

def valueError {α : Type} (message : Text) : Run α := fail .valueError message

/-- Raises an exception that has one more attribute. -/
def failAbout {α : Type} (c : ExceptionClass) (message : Text) (slot : Text) (v : Value) : Run α := do
  let e := exceptionOf c [.ofText message]
  raise (← alloc (.exception { e with slots := e.slots.set slot v }))

/-- Notes for an exception that leaves `op` that it went through a line of a body. -/
def located {α : Type} (f : Frame) (line : Nat) (op : Run α) : Run α :=
  tryCatch op fun s => do
    match s with
    | .raised e => modifyException e fun x => { x with trace := ⟨line, f.name, f.names, f.globals⟩ :: x.trace }
    | .exhausted => pure ()
    throw s

/-- Runs `op`, and with the exception that it raises, if it is one of class `c`, the handler. -/
def rescue {α : Type} (c : ExceptionClass) (op : Run α) (handler : ExceptionObject → Run α) : Run α :=
  tryCatch op fun s => do
    match s with
    | .raised e =>
      match ← exceptionObject e with
      | some x => if x.kind.isA c then handler x else throw s
      | none => throw s
    | .exhausted => throw s

/-- Runs `op` while an exception is being handled. -/
def handling {α : Type} (e : Ref) (op : Run α) : Run α := do
  modifyState fun s => { s with handled := e :: s.handled }
  let done : Run Unit := modifyState fun s => { s with handled := s.handled.drop 1 }
  tryCatch (do let a ← op; done; return a) fun s => do done; throw s

/-- How many bodies and operations may run inside each other. -/
def depthLimit : Nat := 1000

/-- Runs `op` one level deeper; `what` tells what it does, where it is no body of its own. -/
def nested {α : Type} (what : Text) (op : Run α) : Run α := do
  let s ← state
  if depthLimit ≤ s.depth then fail .recursionError ("maximum recursion depth exceeded" ++ what)
  modifyState fun s => { s with depth := s.depth + 1 }
  let done : Run Unit := modifyState fun s => { s with depth := s.depth - 1 }
  tryCatch (do let a ← op; done; return a) fun s => do done; throw s

/-- Runs `op`, which starts with a level that does not count. -/
def relieved {α : Type} (op : Run α) : Run α := do
  modifyState fun s => { s with depth := s.depth - 1 }
  let done : Run Unit := modifyState fun s => { s with depth := s.depth + 1 }
  tryCatch (do let a ← op; done; return a) fun s => do done; throw s

/-- How many bodies run around one that is settled. -/
def settledDepth : Nat := 8

/-- Whether a body that starts now is settled. -/
@[noinline] def isSettled : Run Bool := return settledDepth ≤ (← state).frames.length

/-- Runs `op` as a body of its own. -/
def framed {α : Type} (f : Frame) (op : Run α) : Run α :=
  nested [] do
    modifyState fun s => { s with frames := f :: s.frames }
    let done : Run Unit := modifyState fun s => { s with frames := s.frames.drop 1 }
    tryCatch (do let a ← op; done; return a) fun s => do done; throw s

/-- Runs `op` while the text of an object is made, unless it is being made already. -/
def showing (r : Ref) (again : Points) (op : Run Points) : Run Points := do
  let s ← state
  if r ∈ s.showing then return again
  modifyState fun s => { s with showing := r :: s.showing }
  let done : Run Unit := modifyState fun s => { s with showing := s.showing.drop 1 }
  tryCatch (do let a ← op; done; return a) fun s => do done; throw s

/-- The next identity. -/
def newIdentity : Run Identity := do
  let n := (← state).numbered
  modifyState fun s => { s with numbered := n + 1 }
  return .own n

/-- Gives a value that was just made its identity. Small integers, the empty sequences and single
characters of one byte are shared. -/
def identified (v : Value) : Run Value := do
  match v with
  | .int n .new => return .int n (← if -5 ≤ n && n ≤ 256 then pure .shared else newIdentity)
  | .float x .new => return .float x (← newIdentity)
  | .complex z .new => return .complex z (← newIdentity)
  | .str p .new =>
    let small : Bool := match p with
      | [] => true
      | [n] => n < 256
      | _ => false
    return .str p (← if small then pure .shared else newIdentity)
  | .bytes bs .new => return .bytes bs (← if bs.length ≤ 1 then pure .shared else newIdentity)
  | .tuple vs .new => return .tuple vs (← if vs.isEmpty then pure .shared else newIdentity)
  | v => return v

/-- The names of the system module. -/
def systemValue? (name : Text) : Run (Option Value) := do
  return (← entries (← state).system).value? name

end Run

end ThaiScript.Machine
