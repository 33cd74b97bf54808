import ThaiScript.Machine.Arguments
import ThaiScript.Program.Fault

/-!
# Making exceptions

An exception keeps the arguments that it is made with. Some classes also read them: the code of an
exit, the number and the text of an error of the operating system, the place of a fault in a text.
-/

namespace ThaiScript.Machine

open Program Run

/-- The class of an error of the operating system, which its number may make narrower. -/
def narrowClass (cls : ClassId) (args : List Value) : ClassId :=
  match cls, args with
  | .builtin (.exception .osError), .int n _ :: _ :: _ =>
    match ExceptionClass.ofErrno? n with
    | some c => if args.length ≤ 5 then .exception c else cls
    | none => cls
  | _, _ => cls

def newException (cls : ClassId) (kind : ExceptionClass) (args : List Value) : Run Ref :=
  alloc (.exception { exceptionOf kind args with cls := cls, slots := emptySlots kind })

def setSlots (r : Ref) (named : List (String × Value)) : Run Unit :=
  modifyException r fun e =>
    { e with slots := named.foldl (fun d (n, v) => d.set n.toList v) e.slots }

/-- Keywords that become attributes. -/
def keywordSlots (kind : ExceptionClass) (known : List String) (keywords : Keywords) :
    Run (List (String × Value)) := do
  requireKeywords kind.name known keywords
  return keywords.map fun (k, v) => (String.ofList k, v)

def requireNoSlots (kind : ExceptionClass) (keywords : Keywords) : Run Unit :=
  requireNoKeywords kind.name keywords

def wrongType {α : Type} (i : Nat) (wanted : Text) (v : Value) : Run α := do
  typeError ("argument " ++ Text.ofNat i ++ " must be " ++ wanted ++ ", not " ++ (← typeName v))

def requireString (i : Nat) (v : Value) : Run Unit := do
  match v with
  | .str _ _ => return
  | _ => wrongType i "str" v

def wrongCount {α : Type} (count : Nat) (args : List Value) : Run α :=
  typeError ("function takes exactly " ++ Text.ofNat count ++ " arguments (" ++
    Text.ofNat args.length ++ " given)")

/-- The arguments of an error of encoding or decoding. -/
def codingSlots (ev : Evaluator) (decoding : Bool) (args : List Value) : Run (List (String × Value)) := do
  match args with
  | [codec, what, first, last, reason] =>
    requireString 1 codec
    if !decoding then requireString 2 what
    let first ← index ev first
    let last ← index ev last
    requireString 5 reason
    match what, decoding with
    | .bytes _ _, _ | _, false => pure ()
    | v, true => typeError ("a bytes-like object is required, not '" ++ (← typeName v) ++ "'")
    return [("encoding", codec), ("object", what), ("start", .int first), ("end", .int last),
      ("reason", reason)]
  | _ => wrongCount 5 args

/-- The arguments of an error of translation. -/
def translationSlots (ev : Evaluator) (args : List Value) : Run (List (String × Value)) := do
  match args with
  | [what, first, last, reason] =>
    requireString 1 what
    let first ← index ev first
    let last ← index ev last
    requireString 4 reason
    return [("object", what), ("start", .int first), ("end", .int last), ("reason", reason)]
  | _ => wrongCount 4 args

/-- The message and the place of a fault in a text. -/
def faultSlots (ev : Evaluator) (args : List Value) : Run (List (String × Value)) := do
  match args with
  | [] => return []
  | [message] => return [("msg", message)]
  | [message, place] =>
    match ← itemsOf ev place with
    | [file, line, column, text] =>
      return [("msg", message), ("filename", file), ("lineno", line), ("offset", column), ("text", text)]
    | [file, line, column, text, endLine, endColumn] =>
      return [("msg", message), ("filename", file), ("lineno", line), ("offset", column),
        ("text", text), ("end_lineno", endLine), ("end_offset", endColumn)]
    | vs =>
      if vs.length < 4 then
        typeError ("function takes at least 4 arguments (" ++ Text.ofNat vs.length ++ " given)")
      else if vs.length = 5 then
        typeError "end_offset must be provided when end_lineno is provided"
      else typeError ("function takes at most 6 arguments (" ++ Text.ofNat vs.length ++ " given)")
  | message :: _ => return [("msg", message)]

/-- Gives an exception its arguments, as its builtin class does it. -/
def initException (ev : Evaluator) (r : Ref) (kind : ExceptionClass) (args : List Value)
    (keywords : Keywords) : Run Unit := do
  modifyException r ({ · with args := args })
  if kind.isA .systemExit then
    requireNoSlots kind keywords
    match args with
    | [] => return
    | [v] => setSlots r [("code", v)]
    | vs => setSlots r [("code", .tuple vs)]
  else if kind.isA .stopIteration then
    requireNoSlots kind keywords
    setSlots r [("value", args.headD .none)]
  else if kind.isA .importError then
    let named ← keywordSlots .importError ["name", "path"] keywords
    setSlots r (match args with
      | [v] => ("msg", v) :: named
      | _ => named)
  else if kind.isA .nameError then setSlots r (← keywordSlots .nameError ["name"] keywords)
  else if kind.isA .attributeError then
    setSlots r (← keywordSlots .attributeError ["name", "obj"] keywords)
  else if kind.isA .osError then
    requireNoSlots kind keywords
    match args with
    | n :: text :: more =>
      if more.length ≤ 3 then
        setSlots r [("errno", n), ("strerror", text)]
        match more.head? with
        | none | some .none => return
        | some file =>
          setSlots r [("filename", file), ("filename2", more.getD 2 .none)]
          modifyException r ({ · with args := [n, text] })
    | _ => return
  else if kind.isA .syntaxError then
    requireNoSlots kind keywords
    setSlots r (← faultSlots ev args)
  else if kind.isA .unicodeEncodeError then
    requireNoSlots kind keywords
    setSlots r (← codingSlots ev false args)
  else if kind.isA .unicodeDecodeError then
    requireNoSlots kind keywords
    setSlots r (← codingSlots ev true args)
  else if kind.isA .unicodeTranslateError then
    requireNoSlots kind keywords
    setSlots r (← translationSlots ev args)
  else requireNoSlots kind keywords

/-- The exceptions of a group. -/
def groupMembers (ev : Evaluator) (args : List Value) : Run (List Value) := do
  match args with
  | [.str _ _, es] =>
    if !(← isSequence es) then typeError "second argument (exceptions) must be a sequence"
    let es ← itemsOf ev es
    if es.isEmpty then valueError "second argument (exceptions) must be a non-empty sequence"
    for (e, i) in es.zipIdx do
      match ← objectOf e with
      | .exception _ => pure ()
      | _ => valueError ("Item " ++ Text.ofNat i ++ " of second argument (exceptions) is not an exception")
    return es
  | [v, _] =>
    typeError ("BaseExceptionGroup.__new__() argument 1 must be str, not " ++ (← typeName v))
  | _ =>
    typeError ("BaseExceptionGroup.__new__() takes exactly 2 arguments (" ++
      Text.ofNat args.length ++ " given)")

/-- A group of exceptions. One that holds nothing worse than plain exceptions is one itself. -/
def newGroup (ev : Evaluator) (cls : ClassId) (kind : ExceptionClass) (args : List Value) : Run Ref := do
  let es ← groupMembers ev args
  let isPlain ← es.allM fun e => do isSubclass (← classOf e) (.exception .exception)
  if cls == .exception .exceptionGroup && !isPlain then
    typeError "Cannot nest BaseExceptions in an ExceptionGroup"
  let (cls, kind) :=
    if cls == .exception .baseExceptionGroup && isPlain then
      (ClassId.exception .exceptionGroup, ExceptionClass.exceptionGroup)
    else (cls, kind)
  let r ← newException cls kind args
  setSlots r [("message", args.headD .none), ("exceptions", .tuple es)]
  return r

/-- An exception of a class, before it is initialised. -/
def bareException (ev : Evaluator) (cls : ClassId) (kind : ExceptionClass) (args : List Value) :
    Run Ref :=
  if kind.isA .baseExceptionGroup then newGroup ev cls kind args else newException cls kind args

/-- Makes an exception of a builtin class. -/
def makeException (ev : Evaluator) (c : ExceptionClass) (args : List Value) (keywords : Keywords) :
    Run Value := do
  let cls := narrowClass (.exception c) args
  let kind := match cls with
    | .builtin (.exception k) => k
    | _ => c
  let r ← bareException ev cls kind args
  initException ev r kind args keywords
  return .ref r

/-- A fault of a text, as the exception that running it raises. -/
def raiseFault {α : Type} (c : ExceptionClass) (message file : Text) (line : Nat)
    (excerpt : Option Excerpt) : Run α := do
  let shown : List Value := match excerpt with
    | some e => [.int e.column, .ofText e.text, .int e.endLine, .int e.endColumn]
    | none => [.none, .none, .none, .none]
  let args : List Value := [.ofText message, .tuple (.ofText file :: .int line :: shown)]
  let r ← newException (.exception c) c args
  setSlots r ([("msg", .ofText message), ("filename", .ofText file), ("lineno", .int line)] ++
    ["offset", "text", "end_lineno", "end_offset"].zip shown)
  raise r

end ThaiScript.Machine
