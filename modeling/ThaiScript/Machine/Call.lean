import ThaiScript.Machine.Builtin

/-!
# Calls

A call binds arguments to parameters: positional ones in turn, others by their names, and defaults
where nothing is given. Methods of builtin classes find their class by the value that they are bound
to.
-/

namespace ThaiScript.Machine

open Program Run

/-! ### Parameters -/

def andList : List Text → Text
  | [] => []
  | [a] => a
  | [a, b] => a ++ " and " ++ b
  | ns => Text.join ", " (ns.dropLast ++ ["and " ++ ns.getLastD []])

def namesInQuotes (ns : List Text) : Text := andList (ns.map fun n => "'" ++ n ++ "'")

def plural (n : Nat) : Text := if n = 1 then [] else ['s']

/-- Raises the exception for parameters that got nothing. -/
def missingArguments {α : Type} (f : Function) (kind : Text) (ns : List Text) : Run α :=
  typeError (f.qualname ++ "() missing " ++ Text.ofNat ns.length ++ " required " ++ kind ++
    " argument" ++ plural ns.length ++ ": " ++ namesInQuotes ns)

/-- Raises the exception for arguments that no parameter takes. -/
def tooManyArguments {α : Type} (f : Function) (given keywordOnly : Nat) : Run α := do
  let positional := f.params.filter fun p => p.kind = .positionalOnly || p.kind = .normal
  let most := positional.length
  let least := (positional.filter fun p => p.default?.isNone).length
  let takes : Text :=
    if least = most then Text.ofNat most ++ " positional argument" ++ plural most
    else "from " ++ Text.ofNat least ++ " to " ++ Text.ofNat most ++ " positional arguments"
  let were : Text :=
    if keywordOnly = 0 then Text.ofNat given ++ (if given = 1 then " was" else " were")
    else Text.ofNat given ++ " positional argument" ++ plural given ++ " (and " ++
      Text.ofNat keywordOnly ++ " keyword-only argument" ++ plural keywordOnly ++ ") were"
  typeError (f.qualname ++ "() takes " ++ takes ++ " but " ++ were ++ " given")

def isNamed (p : Parameter) : Bool := p.kind = .normal || p.kind = .keywordOnly

/-- Binds arguments that are given by name. Those that no parameter has are left over. -/
def bindKeywords (f : Function) (hasRest : Bool) : Keywords → Dictionary Value → Keywords →
    Run (Dictionary Value × Keywords)
  | [], bound, left => return (bound, left)
  | (k, v) :: ks, bound, left => do
    if (f.params.find? fun p => isNamed p && p.name = k).isSome then
      if (bound.find? k).isSome then
        typeError (f.qualname ++ "() got multiple values for argument '" ++ k ++ "'")
      bindKeywords f hasRest ks (bound.set k v) left
    else if hasRest then bindKeywords f hasRest ks bound (left ++ [(k, v)])
    else if (f.params.find? fun p => p.kind = .positionalOnly && p.name = k).isSome then
      typeError (f.qualname ++
        "() got some positional-only arguments passed as keyword arguments: '" ++ k ++ "'")
    else typeError (f.qualname ++ "() got an unexpected keyword argument '" ++ k ++ "'")

/-- The parameters with the values that a call gives them. -/
def bindArguments (f : Function) (args : List Value) (keywords : Keywords) :
    Run (Dictionary Value) := do
  let positional := f.params.filter fun p => p.kind = .positionalOnly || p.kind = .normal
  let keywordOnly := f.params.filter fun p => p.kind = .keywordOnly
  let rest := f.params.find? fun p => p.kind = .rest
  let others := f.params.find? fun p => p.kind = .keywords
  let bound : Dictionary Value := (positional.map (·.name)).zip args
  let (bound, left) ← bindKeywords f others.isSome keywords bound []
  if positional.length < args.length && rest.isNone then
    let given := (keywordOnly.filter fun p => (bound.find? p.name).isSome).length
    tooManyArguments f args.length given
  let withDefaults (ps : List Parameter) (bound : Dictionary Value) : Dictionary Value :=
    ps.foldl (fun d p =>
      match d.find? p.name, p.default? with
      | none, some v => d.set p.name v
      | _, _ => d) bound
  let bound := withDefaults positional bound
  let missing (ps : List Parameter) (bound : Dictionary Value) : List Text :=
    (ps.filter fun p => (bound.find? p.name).isNone).map (·.name)
  let ns := missing positional bound
  if !ns.isEmpty then missingArguments f "positional" ns
  let bound := withDefaults keywordOnly bound
  let ns := missing keywordOnly bound
  if !ns.isEmpty then missingArguments f "keyword-only" ns
  let bound := match rest with
    | some p => bound.set p.name (.tuple (args.drop positional.length))
    | none => bound
  match others with
  | some p => return bound.set p.name (← newDict (Entries.ofNames left))
  | none => return bound

/-- What `exit` and `quit` are called with: a code, unless it is left out. -/
def quitterSignature : Function where
  name := "__call__"
  qualname := "Quitter.__call__"
  params := [⟨"self", .normal, none⟩, ⟨"code", .normal, some .none⟩]
  body := .block []
  localNames := []
  globalNames := []
  globals := 0
  enclosing := []
  owner := none
  attrs := []

/-- The frame of a call. -/
def frameOf (f : Function) (bound : Dictionary Value) : Run Frame := do
  let settled ← isSettled
  let vars := f.localNames.map fun n => (n, bound.find? n)
  let r ← alloc (.scope vars.toArray)
  return {
    name := f.name
    qualifier := f.qualname ++ ".<locals>."
    place := .scope r
    globals := f.globals
    names := f.localNames
    globalNames := f.globalNames
    enclosing := f.enclosing
    owner := f.owner
    first := f.params.head?.bind fun p => bound.find? p.name
    settled }

def applyFunction (ev : Evaluator) (f : Function) (args : List Value) (keywords : Keywords) :
    Run Value := do
  let bound ← bindArguments f args keywords
  let frame ← frameOf f bound
  framed frame (ev.run frame f.body)

/-! ### Methods of builtin classes -/

def operators : List BinaryOp := [
  .add, .sub, .mul, .div, .floorDiv, .mod, .pow, .shiftLeft, .shiftRight, .bitAnd, .bitOr, .bitXor]

/-- The methods that numbers have for their operators. -/
def operatorMethod? (ev : Evaluator) (name : Text) (self : Value) (args : List Value) :
    Run (Option Value) := do
  match operators.find? fun op => Operator.method op = name, args with
  | some op, [v] =>
    match ← arithmetic? ev op (← content self) (← content v) with
    | some w => return some w
    | none => return some .notImplemented
  | _, _ => return none

/-- A float as a fraction in lowest terms. -/
def ratioOf (x : Float) : Run Value := do
  match Decimal.Binary.ofFloat? x with
  | some b =>
    let d := b.num.gcd b.den
    return .tuple [.int (b.signedNum / d), .int (b.den / d)]
  | none =>
    if x.isNaN then valueError "cannot convert NaN to integer ratio"
    else fail .overflowError "cannot convert Infinity to integer ratio"

def numberMethod (ev : Evaluator) (name : String) (self : Value) (args : List Value) : Run Value := do
  match ← operatorMethod? ev name self args with
  | some v => return v
  | none =>
    match name, number? (← content self) with
    | "bit_length", some (.int n) => return .int (if n = 0 then 0 else n.natAbs.log2 + 1 : Nat)
    | "bit_count", some (.int n) => return .int ((Nat.toDigits 2 n.natAbs).filter (· = '1')).length
    | "as_integer_ratio", some (.int n) => return .tuple [.int n, .int 1]
    | "as_integer_ratio", some (.float x) => ratioOf x
    | "is_integer", some (.float x) =>
      return .bool (match Decimal.Binary.ofFloat? x with
        | some b => b.isWhole
        | none => false)
    | "conjugate", some (.int n) => return .int n
    | "conjugate", some (.float x) => return .float x
    | "__int__", _ => makeInt ev [self] []
    | "__index__", some (.int n) => return .int n
    | "__float__", _ => makeFloat ev [self] []
    | "__bool__", _ => return .bool (← truth ev (← content self))
    | "__neg__", _ => unary ev .minus (← content self)
    | "__pos__", _ => unary ev .plus (← content self)
    | "__invert__", _ => unary ev .invert (← content self)
    | "__abs__", _ => absolute ev (← content self)
    | "__divmod__", _ => divMod ev (← content self) (args.headD .none)
    | "__round__", _ => roundValue ev (← content self) args.head?
    | _, _ => fail .notImplementedError (name ++ "() is not supported")

/-- The comparisons that every value has. -/
def comparisonOf? (name : String) : Option CompareOp :=
  match name with
  | "__eq__" => some .eq
  | "__ne__" => some .ne
  | "__lt__" => some .lt
  | "__le__" => some .le
  | "__gt__" => some .gt
  | "__ge__" => some .ge
  | _ => none

/-- The methods that every value has, as builtin classes define them. -/
def objectMethod (ev : Evaluator) (name : String) (self : Value) (args : List Value)
    (keywords : Keywords) : Run Value := do
  let arg (i : Nat) : Value := args.getD i .none
  match name with
  | "__init__" =>
    initBuiltin ev self args keywords
    return .none
  | "__repr__" => return .str (← reprBuiltin ev self)
  | "__str__" => return .str (← textBuiltin ev (textOf ev) self)
  | "__hash__" => return .int (← hashOf ev depthLimit (← content self))
  | "__setattr__" =>
    match self, arg 0 with
    | .ref r, .str n _ =>
      setInstanceName r n.lossy (arg 1)
      return .none
    | v, .str n _ =>
      setAttribute ev v n.lossy (arg 1)
      return .none
    | _, v => typeError ("attribute name must be string, not '" ++ (← typeName v) ++ "'")
  | "__delattr__" =>
    match arg 0 with
    | .str n _ =>
      deleteAttribute ev self n.lossy
      return .none
    | v => typeError ("attribute name must be string, not '" ++ (← typeName v) ++ "'")
  | "__getattribute__" =>
    match arg 0 with
    | .str n _ => getAttribute ev self n.lossy
    | v => typeError ("attribute name must be string, not '" ++ (← typeName v) ++ "'")
  | "__format__" =>
    match arg 0 with
    | .str [] _ => return .str (← textOf ev self)
    | .str spec _ => return .str (← formatValue ev (← content self) spec)
    | v => typeError ("__format__() argument must be str, not " ++ (← typeName v))
  | "__init_subclass__" => return .none
  | "__dir__" => newList ((← attributeNames self).map Value.ofText)
  | n =>
    match comparisonOf? n with
    | none => fail .notImplementedError (name ++ "() is not supported")
    | some op =>
      let a ← content self
      let b ← content (arg 0)
      match op with
      | .eq | .ne =>
        match ← equalBuiltin? ev a b with
        | some r => return .bool (r == (op == .eq))
        | none => return if self.same (arg 0) then .bool (op == .eq) else .notImplemented
      | _ => return (← orderBuiltin? ev op a b).getD .notImplemented

def propertyMethod (name : String) (self : Value) (f : Value) : Run Value := do
  match ← objectOf self with
  | .property get set delete =>
    match name with
    | "getter" => new (.property (some f) set delete)
    | "setter" => new (.property get (some f) delete)
    | _ => new (.property get set (some f))
  | _ => return .none

def exceptionMethod (name : String) (self : Value) (args : List Value) : Run Value := do
  match name, self with
  | "add_note", .ref r =>
    match ← exceptionObject r with
    | some e =>
      match e.attrs.find? "__notes__" with
      | some notes =>
        match notes with
        | .ref l => modifyList l (· ++ args.toArray)
        | _ => pure ()
      | none =>
        let notes ← newList args
        modifyException r fun e => { e with attrs := e.attrs.set "__notes__" notes }
    | none => pure ()
    return .none
  | _, _ => return self

/-- The next item that a method is asked for. -/
def nextOrStop (ev : Evaluator) (it : Value) : Run Value := do
  match ← next? ev it with
  | some v => return v
  | none => failWith .stopIteration []

/-- A generator takes no values, so that only `None` can be sent to it. -/
def generatorMethod (ev : Evaluator) (name : String) (r : Ref) (args : List Value) : Run Value := do
  match name, args with
  | "__iter__", _ => return .ref r
  | "close", _ =>
    match ← object r with
    | .iterator (.generated g) => setIterator r (.finished g.qualname)
    | _ => pure ()
    return .none
  | "send", [] => typeError "generator.send() takes exactly one argument (0 given)"
  | _, _ => nextOrStop ev (.ref r)

/-- Calls a method of a builtin class on a value. -/
def callMember (ev : Evaluator) (c : BuiltinClass) (name : String) (self : Value) (args : List Value)
    (keywords : Keywords) : Run Value := do
  let wrong : Run Value := do
    typeError ("descriptor '" ++ name ++ "' for '" ++ c.name ++ "' objects doesn't apply to a '" ++
      (← typeName self) ++ "' object")
  match c with
  | .exception _ => exceptionMethod name self args
  | .core kind =>
    match kind, ← content self with
    | .object, _ => objectMethod ev name self args keywords
    | .str, .str p _ => textMethod ev name p args keywords
    | .bytes, .bytes bs _ => bytesMethod ev name bs args keywords
    | .tuple, .tuple vs _ => tupleMethod ev name vs args keywords
    | .range, v => rangeMethod ev name v args keywords
    | .int, .int _ _ | .int, .bool _ | .float, .float _ _ => numberMethod ev name self args
    | .type, .cls c =>
      if name = "mro" then newList ((← classOrder c).map .cls) else ev.call self args keywords
    | .property, _ => propertyMethod name self (args.headD .none)
    | .iterator, _ => if name = "__iter__" then return self else nextOrStop ev self
    | .generator, .ref r => generatorMethod ev name r args
    | .function, v | .builtinFunction, v | .method, v =>
      if name = "__get__" then
        match args with
        | .none :: _ => return self
        | o :: _ => return .method self o
        | [] => typeError "__get__ expected at least 1 argument, got 0"
      else ev.call v args keywords
    | kind, .ref r =>
      match kind, ← object r with
      | .list, .list _ => listMethod ev name r args keywords
      | .dict, .dict _ => dictMethod ev name r args keywords
      | .set, .set .. | .frozenset, .set .. => setMethod ev name r args keywords
      | .textBuffer, .buffer .. => bufferMethod ev name r args keywords
      | .textStream, .stream .. => streamMethod ev name r args keywords
      | .file, .file .. => fileMethod ev name r args
      | _, .view .. => viewMethod ev name (.ref r) args keywords
      | _, _ => wrong
    | _, _ => wrong

/-- Calls a method of a builtin class that is not bound to a value. -/
def callUnbound (ev : Evaluator) (c : BuiltinClass) (name : String) (args : List Value)
    (keywords : Keywords) : Run Value := do
  match c, name, args with
  | .core .str, "maketrans", _ => makeTranslation ev args
  | .core .dict, "fromkeys", _ => do dictMethod ev name (← alloc (.dict .empty)) args keywords
  | _, _, [] =>
    typeError ("unbound method " ++ c.name ++ "." ++ name ++ "() needs an argument")
  | _, _, self :: args => callMember ev c name self args keywords

/-- Makes a bare instance of the class that is given first. -/
def callNew (ev : Evaluator) (args : List Value) (keywords : Keywords) : Run Value := do
  match args with
  | .cls c :: args =>
    match c with
    | .builtin _ => ev.call (.cls c) args keywords
    | _ => bareInstance ev (makeCore ev) c args keywords
  | _ => typeError "object.__new__(X): X is not a type object"

/-! ### Calls -/

def notCallable {α : Type} (v : Value) : Run α := do
  typeError ("'" ++ (← typeName v) ++ "' object is not callable")

/-- What is done while anything but a function of the program is called. -/
def calling {α : Type} (op : Run α) : Run α := nested " while calling a Python object" op

/-- The classes whose calls have no level of their own. -/
def lightClasses : List CoreClass := [
  .list, .dict, .set, .frozenset, .tuple, .int, .float, .bool, .range, .enumerate, .reversed, .type]

/-- The functions whose calls lose their level in a settled body. -/
def settlingFunctions : List String := [
  "len", "isinstance", "delattr", "divmod", "format", "getattr", "hasattr", "issubclass", "iter",
  "next", "pow", "print", "round", "setattr", "sorted", "sum"]

/-- The methods whose calls lose their level in a settled body. -/
def settlingMethods : List String := ["append", "pop", "insert", "get", "setdefault", "index"]

/-- Whether a call in a settled body has no level of its own. -/
def isSettling (f : Value) (args : List Value) (keywords : Keywords) : Bool :=
  match f with
  | .builtin n => n ∈ settlingFunctions
  | .bound _ _ n => n ∈ settlingMethods && keywords.isEmpty
  | .cls (.builtin (.core .str)) => args.length = 1 && keywords.isEmpty
  | _ => false

def callByKind (ev : Evaluator) (f : Value) (args : List Value) (keywords : Keywords) :
    Run Value := do
  match f with
  | .builtin n => calling (callFunction ev n args keywords)
  | .member c n =>
    calling (if n = "__new__" then callNew ev args keywords else callUnbound ev c n args keywords)
  | .bound self c n =>
    calling
      (if n = "__new__" then callNew ev args keywords else callMember ev c n self args keywords)
  | .method g self => ev.call g (self :: args) keywords
  | .partialCall g more ks =>
    let call : Run Value := ev.call g (more ++ args) (mergeKeywords ks keywords)
    if ks.isEmpty then call else calling call
  | .cls (.builtin (.core c)) =>
    if c ∈ lightClasses then makeCore ev c args keywords else calling (makeCore ev c args keywords)
  | .cls (.builtin (.exception c)) => calling (makeException ev c args keywords)
  | .cls c => calling (instantiate ev (makeCore ev) c args keywords)
  | .ref r =>
    match ← object r with
    | .function g => applyFunction ev g args keywords
    | .quitter _ =>
      let bound ← bindArguments quitterSignature (f :: args) keywords
      exitWith ((bound.find? "code").getD .none)
    | .staticMethod g => ev.call g args keywords
    | _ =>
      match ← special? f "__call__" with
      | some g => calling (do ev.call (← bind ev f (← classOf f) g) args keywords)
      | none => notCallable f
  | _ => notCallable f

/-- Calls a value. What the call made gets its identity. -/
def callOf (ev : Evaluator) (f : Value) (args : List Value) (keywords : Keywords) : Run Value := do
  identified (← callByKind ev f args keywords)

end ThaiScript.Machine
