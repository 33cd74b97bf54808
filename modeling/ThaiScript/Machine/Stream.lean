import ThaiScript.Machine.Method.Texts

/-!
# Writing

Texts are written to the streams of the process, to buffers, and to whatever a program gives a method
`write`. The output stream takes no surrogates; the error stream writes them as escapes.
-/

namespace ThaiScript.Machine

open Run

/-- A text in which surrogates are written as escapes. -/
def escapeSurrogates (p : Points) : Text :=
  p.flatMap fun n => if Points.isSurrogate n then ['\\', 'u'] ++ hexDigits 4 n else [Char.ofNat n]

def closedFailure {α : Type} : Run α := valueError "I/O operation on closed file"

def writeStream (isError : Bool) (p : Points) : Run Unit := do
  if isError then
    modify fun w =>
      { w with console := { w.console with err := w.console.err.writeLines (escapeSurrogates p) } }
  else
    requireEncodable p
    modify fun w => { w with console := { w.console with out := w.console.out.write p.lossy } }

def flushStream (isError : Bool) : Run Unit :=
  modify fun w =>
    if isError then { w with console := { w.console with err := w.console.err.flush } }
    else { w with console := { w.console with out := w.console.out.flush } }

/-- What is in a buffer. -/
def bufferText (chunks : List Points) : Points := chunks.reverse.flatten

/-- A text with another one written over it. -/
def overwrite (p : Points) (position : Nat) (q : Points) : Points :=
  p.take position ++ List.replicate (position - p.length) 0 ++ q ++ p.drop (position + q.length)

def writeBuffer (r : Ref) (q : Points) : Run Unit := do
  match ← object r with
  | .buffer _ _ true => closedFailure
  | .buffer _ none _ => modifyObject r fun o =>
      match o with
      | .buffer chunks position closed => .buffer (q :: chunks) position closed
      | o => o
  | .buffer chunks (some i) closed =>
    let p := overwrite (bufferText chunks) i q
    let i := i + q.length
    setObject r (.buffer [p] (if i = p.length then none else some i) closed)
  | _ => return

def requireText (v : Value) : Run Points := do
  match ← content v with
  | .str p _ => return p
  | _ => typeError ("string argument expected, got '" ++ (← typeName v) ++ "'")

def bufferMethod (ev : Evaluator) (name : String) (r : Ref) (args : List Value)
    (keywords : Keywords) : Run Value := do
  let path : Text := "StringIO." ++ name
  let plain (least most : Nat) : Run Unit := requireArguments path least most args keywords
  let (chunks, position, closed) ← match ← object r with
    | .buffer chunks position closed => pure (chunks, position, closed)
    | _ => pure ([], none, true)
  let open_ : Run Unit := do if closed then closedFailure
  let size := (chunks.map List.length).sum
  match name with
  | "write" =>
    plain 1 1
    let p ← requireText (args.headD .none)
    writeBuffer r p
    return .int p.length
  | "writelines" =>
    plain 1 1
    for v in ← itemsOf ev (args.headD .none) do writeBuffer r (← requireText v)
    return .none
  | "getvalue" => plain 0 0; open_; return .str (bufferText chunks)
  | "read" =>
    open_
    match position with
    | none => return .str []
    | some i =>
      setObject r (.buffer chunks none closed)
      return .str ((bufferText chunks).drop i)
  | "readline" =>
    open_
    match position with
    | none => return .str []
    | some i =>
      let rest := (bufferText chunks).drop i
      let line := rest.takeWhile (· ≠ 10) ++ (if 10 ∈ (rest : List Nat) then [10] else [])
      let j := i + line.length
      setObject r (.buffer chunks (if j < size then some j else none) closed)
      return .str line
  | "seek" =>
    open_
    let i := (← index ev (args.headD .none)).toNat
    setObject r (.buffer chunks (if i = size then none else some i) closed)
    return .int i
  | "tell" => plain 0 0; open_; return .int (position.getD size)
  | "truncate" =>
    open_
    let n ← match args.headD .none with
      | .none => pure (position.getD size)
      | v => do pure (← index ev v).toNat
    setObject r (.buffer [(bufferText chunks).take n] (some (position.getD size)) closed)
    return .int n
  | "close" =>
    plain 0 0
    setObject r (.buffer chunks position true)
    return .none
  | "flush" => plain 0 0; open_; return .none
  | "isatty" => plain 0 0; open_; return .bool false
  | "readable" | "writable" | "seekable" => plain 0 0; open_; return .bool true
  | "__enter__" => open_; return .ref r
  | "__exit__" =>
    setObject r (.buffer chunks position true)
    return .none
  | _ => fail .notImplementedError path

def streamMethod (ev : Evaluator) (name : String) (r : Ref) (args : List Value)
    (keywords : Keywords) : Run Value := do
  let path : Text := "TextIOWrapper." ++ name
  let plain (least most : Nat) : Run Unit := requireArguments path least most args keywords
  let (isError, closed) ← match ← object r with
    | .stream isError closed => pure (isError, closed)
    | _ => pure (false, true)
  let open_ : Run Unit := do if closed then valueError "I/O operation on closed file."
  let write (v : Value) : Run Points := do
    match ← content v with
    | .str p _ =>
      writeStream isError p
      return p
    | _ => typeError ("write() argument must be str, not " ++ (← typeName v))
  match name with
  | "write" =>
    plain 1 1
    open_
    return .int (← write (args.headD .none)).length
  | "writelines" =>
    plain 1 1
    open_
    for v in ← itemsOf ev (args.headD .none) do let _ ← write v
    return .none
  | "flush" =>
    plain 0 0
    open_
    flushStream isError
    return .none
  | "close" =>
    plain 0 0
    flushStream isError
    setObject r (.stream isError true)
    return .none
  | "fileno" => plain 0 0; return .int (if isError then 2 else 1)
  | "isatty" => plain 0 0; open_; return .bool false
  | "readable" | "seekable" => plain 0 0; open_; return .bool false
  | "writable" => plain 0 0; open_; return .bool true
  | "reconfigure" => return .none
  | "__enter__" => open_; return .ref r
  | "__exit__" =>
    flushStream isError
    setObject r (.stream isError true)
    return .none
  | _ => fail .notImplementedError path

/-- The most code points that are asked for, unless all are. -/
def sizeArgument (ev : Evaluator) (args : List Value) : Run (Option Nat) := do
  match args with
  | [] | .none :: _ => return none
  | v :: _ =>
    match ← index? ev v with
    | some n => return if n < 0 then none else some n.toNat
    | none => typeError ("argument should be integer or None, not '" ++ (← typeName v) ++ "'")

/-- The lines that are left behind so many code points. -/
def dropPoints : Nat → List Points → List Points
  | 0, lines => lines
  | _, [] => []
  | n, l :: ls => if n < l.length then l.drop n :: ls else dropPoints (n - l.length) ls

def fileMethod (ev : Evaluator) (name : String) (r : Ref) (args : List Value) : Run Value := do
  let (path, lines, closed) ← match ← object r with
    | .file path lines closed => pure (path, lines, closed)
    | _ => pure ([], [], true)
  let open_ : Run Unit := do if closed then valueError "I/O operation on closed file."
  match name with
  | "read" =>
    open_
    match ← sizeArgument ev args with
    | none =>
      setObject r (.file path [] closed)
      return .str lines.flatten
    | some n =>
      setObject r (.file path (dropPoints n lines) closed)
      return .str (lines.flatten.take n)
  | "readline" =>
    open_
    let line := lines.headD []
    let n := (← sizeArgument ev args).getD line.length
    setObject r (.file path (dropPoints (min n line.length) lines) closed)
    return .str (line.take n)
  | "readlines" =>
    open_
    setObject r (.file path [] closed)
    newList (lines.map .str)
  | "close" | "__exit__" =>
    setObject r (.file path [] true)
    return .none
  | "flush" => return .none
  | "__enter__" | "__iter__" => open_; return .ref r
  | "__next__" =>
    open_
    match lines with
    | l :: ls =>
      setObject r (.file path ls closed)
      return .str l
    | [] => failWith .stopIteration []
  | _ => fail .notImplementedError ("TextIOWrapper." ++ name)

/-- Writes a text through the method `write` of a value. -/
def writeTo (ev : Evaluator) (file : Value) (p : Points) : Run Unit := do
  let write ← getAttribute ev file "write"
  let _ ← ev.call write [.str p] []

/-- A separator or an ending: none stands for the usual one. -/
def spacing (name : Text) (usual : Points) (v : Option Value) : Run Points := do
  match v with
  | none | some .none => return usual
  | some v =>
    match ← content v with
    | .str p _ => return p
    | _ => typeError (name ++ " must be None or a string, not " ++ (← typeName v))

/-- The stream that is meant when none is given; nothing is written when it is none. -/
def standardOutput : Run (Option Value) := do
  match ← systemValue? "stdout" with
  | none => fail .runtimeError "lost sys.stdout"
  | some .none => return none
  | some v => return some v

def printValues (ev : Evaluator) (args : List Value) (keywords : Keywords) : Run Value := do
  requireKeywords "print" ["sep", "end", "file", "flush"] keywords
  let target ← match keywords.find? "file" with
    | none | some .none => standardOutput
    | some v => pure (some v)
  match target with
  | none => return .none
  | some file =>
    let sep ← spacing "sep" " " (keywords.find? "sep")
    let ending ← spacing "end" "\n" (keywords.find? "end")
    for (v, i) in args.zipIdx do
      if i ≠ 0 then writeTo ev file sep
      writeTo ev file (← textOf ev v)
    writeTo ev file ending
    match keywords.find? "flush" with
    | some v =>
      if ← truth ev v then
        let flush ← getAttribute ev file "flush"
        let _ ← ev.call flush [] []
    | none => pure ()
    return .none

end ThaiScript.Machine
