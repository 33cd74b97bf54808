import ThaiScript.Machine.Construct
import ThaiScript.Machine.Module
import ThaiScript.Machine.Traceback

/-!
# Builtin functions

The functions that every program finds, and those of the modules that it can import.
-/

namespace ThaiScript.Machine

open Program Decimal Run

/-! ### Numbers -/

def absolute (ev : Evaluator) (v : Value) : Run Value := do
  match ← callSpecial? ev v "__abs__" [] with
  | some w => return w
  | none =>
    match number? (← content v) with
    | some (.int n) => if 0 ≤ n then unary ev .plus v else return .int n.natAbs
    | some (.float x) => return .float x.abs
    | some (.complex z) =>
      let size := hypotenuse z.re z.im
      if size.isInf && !z.re.isInf && !z.im.isInf then
        fail .overflowError "absolute value too large"
      return .float size
    | none => typeError ("bad operand type for abs(): '" ++ (← typeName v) ++ "'")

def divMod (ev : Evaluator) (a b : Value) : Run Value := do
  match ← callSpecial? ev a "__divmod__" [b] with
  | some w => return w
  | none =>
    match number? (← content a), number? (← content b) with
    | some (.int m), some (.int n) =>
      if n = 0 then fail .zeroDivisionError "integer division or modulo by zero"
      return .tuple [.int (Int.fdiv m n), .int (Int.fmod m n)]
    | some x, some y =>
      let toFloat (n : Number) : Run Float :=
        match n with
        | .int k => requireFloat k
        | .float f => return f
        | .complex _ => unsupported "divmod()" a b
      let x ← toFloat x
      let y ← toFloat y
      if y == 0 then fail .zeroDivisionError "float divmod()"
      let (q, r) := floatDivMod x y
      return .tuple [.float q, .float r]
    | _, _ => unsupported "divmod()" a b

def power (ev : Evaluator) (a b : Value) (m : Option Value) : Run Value := do
  match m with
  | none => binaryWith ev (formatPercent ev) "** or pow()" .pow a b
  | some m =>
    match number? (← content a), number? (← content b), number? (← content m) with
    | some (.int a), some (.int b), some (.int m) =>
      if m = 0 then valueError "pow() 3rd argument cannot be 0"
      if m = 1 || m = -1 then return .int 0
      let a ← if 0 ≤ b then pure a
        else match inverseMod? m a with
          | some a => pure a
          | none => valueError "base is not invertible for the given modulus"
      return .int (powMod m (b.natAbs.log2 + 2) (Int.fmod a m) b.natAbs)
    | _, _, _ => typeError "pow() 3rd argument not allowed unless all arguments are integers"

def roundValue (ev : Evaluator) (v : Value) (places : Option Value) : Run Value := do
  match ← callSpecial? ev v "__round__" places.toList with
  | some w => return w
  | none =>
    match number? (← content v), places with
    | some (.int _), none => unary ev .plus v
    | some (.int n), some p =>
      let k ← index ev p
      if 0 ≤ k then return ← unary ev .plus v
      if n.natAbs.log2 + 5 < (-k).toNat then return .int 0
      let unit := 10 ^ (-k).toNat
      let m : Int := (roundDiv n.natAbs unit * unit : Nat)
      return .int (if n < 0 then -m else m)
    | some (.float x), none =>
      match Binary.ofFloat? x with
      | some b => return .int b.round
      | none => return .int (← floatToInt x)
    | some (.float x), some p =>
      let y := roundPlaces x (← index ev p)
      if y.isInf && !x.isInf then fail .overflowError "rounded value too large to represent"
      return .float y
    | _, _ => typeError ("type " ++ (← typeName v) ++ " doesn't define __round__ method")

def inBase (ev : Evaluator) (mark : Text) (base : Nat) (v : Value) : Run Value := do
  let n ← index ev v
  return .ofText ((if n < 0 then ['-'] else []) ++ mark ++ digitsIn base n.natAbs)

def sumValues (ev : Evaluator) (vs : List Value) (start : Value) : Run Value := do
  match ← content start with
  | .str _ _ => typeError "sum() can't sum strings [use ''.join(seq) instead]"
  | .bytes _ _ => typeError "sum() can't sum bytes [use b''.join(seq) instead]"
  | _ => vs.foldlM (fun a v => binaryWith ev (formatPercent ev) "+" .add a v) start

/-- The greatest or least of several values. -/
def extreme (ev : Evaluator) (name : Text) (op : CompareOp) (args : List Value) (keywords : Keywords) :
    Run Value := do
  requireKeywords name ["key", "default"] keywords
  let default? := keywords.find? "default"
  let vs ← match args with
    | [] => typeError (name ++ " expected at least 1 argument, got 0")
    | [v] => itemsOf ev v
    | vs =>
      if default?.isSome then
        typeError ("Cannot specify a default for " ++ name ++ "() with multiple positional arguments")
      pure vs
  let keyOf (v : Value) : Run Value := do
    match keywords.find? "key" with
    | none | some .none => return v
    | some f => ev.call f [v] []
  match vs with
  | [] =>
    match default? with
    | some v => return v
    | none => valueError (name ++ "() arg is an empty sequence")
  | v :: vs =>
    let first := (v, ← keyOf v)
    let best ← vs.foldlM (fun (best : Value × Value) w => do
      let k ← keyOf w
      return if ← truth ev (← ev.compare op k best.2) then (w, k) else best) first
    return best.1

/-! ### Texts and keys -/

def ordinal (v : Value) : Run Value := do
  match ← content v with
  | .str [n] _ => return .int n
  | .str p _ =>
    typeError ("ord() expected a character, but string of length " ++ Text.ofNat p.length ++ " found")
  | .bytes [b] _ => return .int b
  | _ => typeError ("ord() expected string of length 1, but " ++ (← typeName v) ++ " found")

def character (ev : Evaluator) (v : Value) : Run Value := do
  let n ← index ev v
  if n < 0 ∨ 0x10FFFF < n then valueError "chr() arg not in range(0x110000)"
  return .str [n.toNat]

/-! ### Classes -/

def isCallable (v : Value) : Run Bool := do
  match v with
  | .cls _ | .builtin _ | .member .. | .bound .. | .method .. | .partialCall .. => return true
  | _ =>
    match ← objectOf v with
    | .function _ | .quitter _ | .staticMethod _ => return true
    | _ => return (← special? v "__call__").isSome

/-- Binds the first arguments of a function. What is bound already stays in front of that. -/
def makePartial (f : Value) (args : List Value) (keywords : Keywords) : Run Value := do
  let (g, before, earlier) := match f with
    | .partialCall g before earlier => (g, before, earlier)
    | f => (f, [], [])
  if !(← isCallable g) then typeError "the first argument must be callable"
  return .partialCall g (before ++ args) (mergeKeywords earlier keywords)

/-- Whether one of the classes that a value stands for satisfies a test. Tuples are looked into to a
depth. -/
def anyClass (complaint : Text) (test : ClassId → Run Bool) : (depth : Nat) → Value → Run Bool
  | 0, _ => return false
  | depth + 1, v => do
    match v with
    | .cls c => test c
    | .tuple vs _ => vs.anyM (anyClass complaint test depth)
    | _ => typeError complaint

def isInstance (v cls : Value) : Run Bool := do
  let own ← classOf v
  anyClass "isinstance() arg 2 must be a type, a tuple of types, or a union"
    (fun c => isSubclass own c) depthLimit cls

def isSubclassOf (v cls : Value) : Run Bool := do
  match v with
  | .cls c =>
    anyClass "issubclass() arg 2 must be a class, a tuple of classes, or a union"
      (fun d => isSubclass c d) depthLimit cls
  | _ => typeError "issubclass() arg 1 must be a class"

/-- The number of a value that is no object: its identity, or what its content tells. -/
def idNumber (v : Value) : Int :=
  let number (id : Identity) (content : Nat) : Int :=
    match id with
    | .own n => 0x7E0000000000 + 16 * n
    | _ => 0x7D0000000000 + 16 * content
  match v with
  | .none => 0x55C0DE000000
  | .ellipsis => 0x55C0DE000020
  | .notImplemented => 0x55C0DE000030
  | .bool b => 0x55C0DE000040 + if b then 32 else 0
  | .int n id => number id (2 * n.natAbs + if n < 0 then 1 else 0)
  | .float x id => number id x.toBits.toNat
  | .complex z id => number id (z.re.toBits.toNat + 3 * z.im.toBits.toNat)
  | .str p id => number id (hashOfPoints p)
  | .bytes bs id => number id (hashOfPoints bs)
  | .tuple vs id => number id vs.length
  | _ => 0x7C0000000000

/-! ### The running program -/

def currentFrame : Run Frame := do
  match (← state).frames with
  | f :: _ => return f
  | [] => fail .systemError "frame does not exist"

/-- The names of the running body, as a dictionary. -/
def localsOf (f : Frame) : Run Value := do
  match f.place with
  | .globals => return .ref f.globals
  | .classBody r => return .ref r
  | .scope r =>
    match ← object r with
    | .scope vars =>
      let bound := vars.toList.filterMap fun (n, v) => v.map fun v => (n, v)
      newDict (Entries.ofNames bound)
    | _ => newDict .empty

def namesOf (ev : Evaluator) (v : Value) : Run Value := do
  match ← attribute? ev v "__dict__" with
  | some d => return d
  | none => typeError "vars() argument must have __dict__ attribute"

/-- The lines of a text, each with the line feed that ends it. -/
def linesWithEnds : (line : Points) → Points → List Points
  | line, [] => if line.isEmpty then [] else [line.reverse]
  | line, n :: p =>
    if n = 10 then (n :: line).reverse :: linesWithEnds [] p else linesWithEnds (n :: line) p

/-- An error of the operating system about a file. -/
def fileFailure {α : Type} (ev : Evaluator) (e : FileError) (file : Value) : Run α := do
  let c := (ExceptionClass.ofErrno? e.number).getD .osError
  let r ← newException (.exception c) c []
  initException ev r c [.int e.number, .ofText e.text, file] []
  raise r

/-- Raises an exception unless a mode asks for one way to open a file, as text or as bytes. -/
def requireMode (mode : Points) : Run Unit := do
  let known : Points := "xrwa+tb"
  if mode.any (fun n => n ∉ (known : List Nat)) || mode.eraseDups.length < mode.length then
    valueError ("invalid mode: '" ++ mode.lossy ++ "'")
  if 116 ∈ (mode : List Nat) && 98 ∈ (mode : List Nat) then
    valueError "can't have text and binary mode at once"
  if (mode.filter fun n => n ∈ ("xrwa" : Points)).length ≠ 1 then
    valueError "must have exactly one of create/read/write/append mode"

/-- Opens a file for reading. Its lines end in line feeds, however they end in the file. -/
def openFile (ev : Evaluator) (args : List Value) (keywords : Keywords) : Run Value := do
  match argument? args keywords 0 "file" with
  | none => typeError "open() missing required argument 'file' (pos 1)"
  | some v =>
    match ← content v with
    | .str p _ =>
      match argument? args keywords 1 "mode" with
      | none => pure ()
      | some m =>
        match ← content m with
        | .str mode _ => requireMode mode
        | _ => typeError ("open() argument 'mode' must be str, not " ++ (← typeName m))
      if 0 ∈ (p : List Nat) then valueError "embedded null byte"
      requireEncodable p
      match (← state).files.read p.lossy with
      | .ok bs =>
        let t ← decodeBytes bs
        new (.file p.lossy (linesWithEnds [] (Text.points (Text.unifyLines t))) false)
      | .error e => fileFailure ev e v
    | _ =>
      typeError ("expected str, bytes or os.PathLike object, not " ++ (← typeName v))

/-- There is nothing to read from the input, which a prompt goes before. -/
def readInput (ev : Evaluator) (args : List Value) : Run Value := do
  match args with
  | v :: _ =>
    match ← standardOutput with
    | some file =>
      writeTo ev file (← textOf ev v)
      let _ ← ev.call (← getAttribute ev file "flush") [] []
    | none => fail .runtimeError "input(): lost sys.stdout"
  | [] => pure ()
  fail .eofError "EOF when reading a line"

def exitWith (v : Value) : Run Value := do
  let e := exceptionOf .systemExit (match v with
    | .none => []
    | v => [v])
  raise (← alloc (.exception e))

/-- The installed reporter: a line with the localized message on the output stream, and behind it the
report on the error stream. -/
def reportLocalized (ev : Evaluator) (args : List Value) : Run Value := do
  match args with
  | [_, v, _] =>
    let l := (← state).language
    let message ← localizedMessage ev l v
    let _ ← printValues ev [.ofText (summaryLine l message)] []
    match ← systemValue? "__excepthook__" with
    | some hook => ev.call hook args []
    | none =>
      fail .attributeError "module 'sys' has no attribute '__excepthook__'"
  | _ =>
    valueError ("expected tuple of length 3, but got tuple of length " ++ Text.ofNat args.length)

/-! ### The functions by their names -/

/-- The functions of the module of numbers, by their names. -/
def mathFunction (ev : Evaluator) (name : String) (args : List Value) : Run Value := do
  let number (v : Value) : Run Float := do
    match number? (← content v) with
    | some (.int n) => requireFloat n
    | some (.float x) => return x
    | _ => typeError ("must be real number, not " ++ (← typeName v))
  let whole (round : Binary → Int) (v : Value) : Run Value := do
    match number? (← content v) with
    | some (.int n) => return .int n
    | some (.float x) =>
      match Binary.ofFloat? x with
      | some b => return .int (round b)
      | none => return .int (← floatToInt x)
    | _ => typeError ("must be real number, not " ++ (← typeName v))
  let domain (x : Float) (bad : Bool) (y : Float) : Run Value := do
    if bad && !x.isNaN then valueError "math domain error"
    return .float y
  match name, args with
  | "floor", [v] => whole Binary.floor v
  | "ceil", [v] => whole (fun b => -({ b with negative := !b.negative } : Binary).floor) v
  | "trunc", [v] => whole Binary.truncate v
  | "sqrt", [v] =>
    let x ← number v
    domain x (x < 0) x.sqrt
  | "log", [v] =>
    let x ← number v
    domain x (x ≤ 0) x.log
  | "exp", [v] => return .float (← number v).exp
  | "sin", [v] => return .float (← number v).sin
  | "cos", [v] => return .float (← number v).cos
  | "tan", [v] => return .float (← number v).tan
  | "fabs", [v] => return .float (← number v).abs
  | "pow", [v, w] => floatPower (← number v) (← number w)
  | "isnan", [v] => return .bool (← number v).isNaN
  | "isinf", [v] => return .bool (← number v).isInf
  | "gcd", vs =>
    let ns ← vs.mapM (index ev)
    let n : Nat := ns.foldl (fun a b => a.gcd b.natAbs) 0
    return .int n
  | "factorial", [v] =>
    let n ← index ev v
    if n < 0 then valueError "factorial() not defined for negative values"
    let product : Nat := (List.range n.toNat).foldl (fun a i => a * (i + 1)) 1
    return .int product
  | _, _ => typeError (name ++ "() got wrong arguments")

def makeProperty (args : List Value) (keywords : Keywords) : Run Value := do
  let get (i : Nat) (name : Text) : Option Value := givenOr (argument? args keywords i name)
  new (.property (get 0 "fget") (get 1 "fset") (get 2 "fdel"))

/-- A value that a builtin class that is no exception makes of arguments. -/
def makeCore (ev : Evaluator) (c : CoreClass) (args : List Value) (keywords : Keywords) :
    Run Value := do
  let arg (i : Nat) : Value := args.getD i .none
  let plain (least most : Nat) : Run Unit := requireArguments c.name least most args keywords
  match c with
  | .object =>
    if !(args.isEmpty && keywords.isEmpty) then typeError "object() takes no arguments"
    new (.instance_ (.core .object) [] none)
  | .type =>
    match args with
    | [v] => return .cls (← classOf v)
    | [name, bases, attrs] =>
      match name, bases, ← objectOf attrs with
      | .str n _, .tuple bs _, .dict es => makeClass ev n.lossy bs es.names keywords
      | _, _, _ => typeError "type.__new__() got wrong arguments"
    | _ => typeError "type() takes 1 or 3 arguments"
  | .int => makeInt ev args keywords
  | .bool =>
    plain 0 1
    match args with
    | [] => return .bool false
    | v :: _ => return .bool (← truth ev v)
  | .float => makeFloat ev args keywords
  | .complex => makeComplex ev args keywords
  | .str => makeText ev args keywords
  | .bytes => makeBytes ev args keywords
  | .list => newList (← itemsOfFirst ev "list" args keywords)
  | .tuple => return .tuple (← itemsOfFirst ev "tuple" args keywords)
  | .dict =>
    requireCount "dict" 0 1 args
    let r ← alloc (.dict .empty)
    updateDict ev r args keywords
    return .ref r
  | .set =>
    plain 0 1
    new (.set (← args.foldlM (mergeItems ev) .empty) false)
  | .frozenset =>
    plain 0 1
    match ← objectOf (arg 0) with
    | .set _ true => return arg 0
    | _ => new (.set (← args.foldlM (mergeItems ev) .empty) true)
  | .range => makeRange ev args keywords
  | .slice =>
    plain 1 3
    match args with
    | [b] => return .slice .none b .none
    | _ => return .slice (arg 0) (arg 1) (arg 2)
  | .property => makeProperty args keywords
  | .staticMethod => plain 1 1; new (.staticMethod (arg 0))
  | .classMethod => plain 1 1; new (.classMethod (arg 0))
  | .super => makeSuper args
  | .enumerate =>
    let start ← match argument? args keywords 1 "start" with
      | some v => index ev v
      | none => pure 0
    match argument? args keywords 0 "iterable" with
    | some v => new (.iterator (.counted start (← iteratorOf ev v)))
    | none => typeError "enumerate() missing required argument 'iterable' (pos 1)"
  | .zip => new (.iterator (.zipped (← args.mapM (iteratorOf ev))))
  | .map =>
    match args with
    | f :: v :: vs => new (.iterator (.mapped f (← (v :: vs).mapM (iteratorOf ev))))
    | _ => typeError "map() must have at least two arguments."
  | .filter => plain 2 2; new (.iterator (.filtered (arg 0) (← iteratorOf ev (arg 1))))
  | .reversed => plain 1 1; makeReversed ev (arg 0)
  | .partialCall =>
    match args with
    | f :: args => makePartial f args keywords
    | [] => typeError "type 'partial' takes at least one argument"
  | .textBuffer =>
    match args.head? with
    | none | some .none => new (.buffer [] none false)
    | some v => new (.buffer [← requireText v] (some 0) false)
  | .noneType => return .none
  | c => typeError ("cannot create '" ++ c.name ++ "' instances")

/-- The names of the builtin functions. -/
def functionNames : List String := [
  "__build_class__", "__import__", "abs", "all", "any", "ascii", "bin", "breakpoint", "callable", "chr",
  "compile", "delattr", "dir", "divmod", "eval", "exec", "format", "getattr", "globals", "hasattr",
  "hash", "hex", "id", "input", "isinstance", "issubclass", "iter", "aiter", "len", "locals", "max",
  "min", "next", "anext", "oct", "ord", "pow", "print", "repr", "round", "setattr", "sorted", "sum",
  "vars"]

def callFunction (ev : Evaluator) (name : String) (args : List Value) (keywords : Keywords) :
    Run Value := do
  let arg (i : Nat) : Value := args.getD i .none
  let plain (least most : Nat) : Run Unit := requireArguments name least most args keywords
  let attributeName (v : Value) : Run Text := do
    match v with
    | .str p _ => return p.lossy
    | v => typeError ("attribute name must be string, not '" ++ (← typeName v) ++ "'")
  match name with
  | "print" => printValues ev args keywords
  | "len" => plain 1 1; return .int (← length ev (arg 0))
  | "abs" => plain 1 1; absolute ev (arg 0)
  | "all" => plain 1 1; return .bool (← (← itemsOf ev (arg 0)).allM (truth ev))
  | "any" => plain 1 1; return .bool (← (← itemsOf ev (arg 0)).anyM (truth ev))
  | "ascii" => plain 1 1; convert ev (some 'a') (arg 0)
  | "bin" => plain 1 1; inBase ev "0b" 2 (arg 0)
  | "oct" => plain 1 1; inBase ev "0o" 8 (arg 0)
  | "hex" => plain 1 1; inBase ev "0x" 16 (arg 0)
  | "callable" => plain 1 1; return .bool (← isCallable (arg 0))
  | "chr" => plain 1 1; character ev (arg 0)
  | "ord" => plain 1 1; ordinal (arg 0)
  | "divmod" => plain 2 2; divMod ev (arg 0) (arg 1)
  | "pow" =>
    match argument? args keywords 0 "base", argument? args keywords 1 "exp" with
    | some a, some b => power ev a b (givenOr (argument? args keywords 2 "mod"))
    | _, _ => typeError "pow() missing required argument"
  | "round" =>
    match argument? args keywords 0 "number" with
    | some v => roundValue ev v (givenOr (argument? args keywords 1 "ndigits"))
    | none => typeError "round() missing required argument 'number' (pos 1)"
  | "repr" => plain 1 1; return .str (← ev.repr (arg 0))
  | "format" =>
    plain 1 2
    match args with
    | [v] => return .str (← formatValue ev v [])
    | _ => return .str (← formatValue ev (arg 0) (← textArgument "format() argument 2 must be str, not " (arg 1)))
  | "hash" =>
    plain 1 1
    return .int (← hashOf ev depthLimit (arg 0))
  | "id" =>
    plain 1 1
    match arg 0 with
    | .ref r => return .int (0x7F0000000000 + 64 * r)
    | v => return .int (idNumber v)
  | "isinstance" => plain 2 2; return .bool (← isInstance (arg 0) (arg 1))
  | "issubclass" => plain 2 2; return .bool (← isSubclassOf (arg 0) (arg 1))
  | "iter" =>
    plain 1 2
    match args with
    | [v] => iteratorOf ev v
    | _ =>
      if ← isCallable (arg 0) then new (.iterator (.called (arg 0) (arg 1)))
      else typeError "iter(v, w): v must be callable"
  | "next" =>
    plain 1 2
    match ← next? ev (arg 0) with
    | some v => return v
    | none =>
      match args with
      | [_, v] => return v
      | _ => failWith .stopIteration []
  | "max" => extreme ev "max" .gt args keywords
  | "min" => extreme ev "min" .lt args keywords
  | "sum" =>
    match args with
    | v :: more => sumValues ev (← itemsOf ev v) ((more.head? <|> keywords.find? "start").getD (.int 0))
    | [] => typeError "sum() takes at least 1 positional argument (0 given)"
  | "sorted" =>
    match args with
    | [v] =>
      let vs ← itemsOf ev v
      let (key, reverse) ← sortArguments ev "sort" keywords
      newList (← sortValues ev vs key reverse)
    | _ => typeError ("sorted expected 1 argument, got " ++ Text.ofNat args.length)
  | "getattr" =>
    plain 2 3
    let n ← attributeName (arg 1)
    match args with
    | [v, _, w] => rescue .attributeError (getAttribute ev v n) fun _ => return w
    | _ => getAttribute ev (arg 0) n
  | "hasattr" => plain 2 2; return .bool (← hasAttribute ev (arg 0) (← attributeName (arg 1)))
  | "setattr" =>
    plain 3 3
    setAttribute ev (arg 0) (← attributeName (arg 1)) (arg 2)
    return .none
  | "delattr" =>
    plain 2 2
    deleteAttribute ev (arg 0) (← attributeName (arg 1))
    return .none
  | "globals" => plain 0 0; return .ref (← currentFrame).globals
  | "locals" => plain 0 0; localsOf (← currentFrame)
  | "vars" =>
    plain 0 1
    match args with
    | [] => localsOf (← currentFrame)
    | v :: _ => namesOf ev v
  | "dir" =>
    plain 0 1
    match args with
    | [] =>
      match ← objectOf (← localsOf (← currentFrame)) with
      | .dict es =>
        newList ((es.names.map (·.1)).mergeSort (fun a b => !decide (b < a)) |>.map Value.ofText)
      | _ => newList []
    | v :: _ => newList (← directory ev v)
  | "input" => plain 0 1; readInput ev args
  | "open" => openFile ev args keywords
  | "__import__" =>
    match args with
    | .str p _ :: _ => importModule p.lossy
    | _ => typeError "__import__() argument 1 must be str"
  | "sys.exit" => plain 0 1; exitWith (arg 0)
  | "sys.excepthook" =>
    requireArguments "excepthook" 3 3 args keywords
    displayException ev (arg 1)
    return .none
  | "thai_excepthook" => reportLocalized ev args
  | "sys.getrecursionlimit" => return .int depthLimit
  | "sys.intern" => return arg 0
  | "sys.exc_info" =>
    match (← state).handled with
    | [] => return .tuple [.none, .none, .none]
    | e :: _ => return .tuple [.cls (← classOf (.ref e)), .ref e, .none]
  | n =>
    match n.toList with
    | 'm' :: 'a' :: 't' :: 'h' :: '.' :: rest => mathFunction ev (String.ofList rest) args
    | _ => fail .notImplementedError (n ++ "() is not supported")

end ThaiScript.Machine
