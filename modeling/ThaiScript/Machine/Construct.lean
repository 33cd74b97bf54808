import ThaiScript.Machine.Exception
import ThaiScript.Machine.Method.Collections
import ThaiScript.Machine.Method.Texts

/-!
# Making values

What the builtin classes make of their arguments, how a class of the program is made from its bases,
and how it makes its instances.
-/

namespace ThaiScript.Machine

open Decimal Run

/-! ### Values of builtin classes -/

def invalidInt {α : Type} (ev : Evaluator) (base : Int) (v : Value) : Run α := do
  valueError ("invalid literal for int() with base " ++ Text.ofInt base ++ ": " ++
    Points.lossy ((← ev.repr v).take 200))

def parseInt (ev : Evaluator) (p : Points) (base : Int) (v : Value) : Run Value := do
  match readInt p base.toNat with
  | .value n => return .int n
  | .tooLong digits =>
    valueError ("Exceeds the limit (4300 digits) for integer string conversion: value has " ++
      Text.ofNat digits ++ " digits; use sys.set_int_max_str_digits() to increase the limit")
  | .invalid => invalidInt ev base v

def makeInt (ev : Evaluator) (args : List Value) (keywords : Keywords) : Run Value := do
  requireKeywords "int" ["base"] keywords
  requireCount "int" 0 2 args
  match args.head?, argument? args keywords 1 "base" with
  | none, none => return .int 0
  | none, some _ => typeError "int() missing string argument"
  | some v, none =>
    match ← content v with
    | .bool b => return .int (if b then 1 else 0)
    | .int n _ => return .int n
    | .float x _ => return .int (← floatToInt x)
    | .str p _ => parseInt ev p 10 v
    | .bytes bs _ => parseInt ev bs 10 v
    | _ =>
      match ← callSpecial? ev v "__int__" [] with
      | some (.int n _) => return .int n
      | some (.bool b) => return .int (if b then 1 else 0)
      | some w => typeError ("__int__ returned non-int (type " ++ (← typeName w) ++ ")")
      | none =>
        match ← index? ev v with
        | some n => return .int n
        | none =>
          typeError ("int() argument must be a string, a bytes-like object or a real number, not '" ++
            (← typeName v) ++ "'")
  | some v, some base =>
    let base ← index ev base
    if base ≠ 0 && (base < 2 || 36 < base) then
      valueError "int() base must be >= 2 and <= 36, or 0"
    match ← content v with
    | .str p _ => parseInt ev p base v
    | .bytes bs _ => parseInt ev bs base v
    | _ => typeError "int() can't convert non-string with explicit base"

def makeFloat (ev : Evaluator) (args : List Value) (keywords : Keywords) : Run Value := do
  requireArguments "float" 0 1 args keywords
  match args with
  | [] => return .float 0
  | v :: _ =>
    match ← content v with
    | .float x _ => return .float x
    | .int n _ => return .float (← requireFloat n)
    | .bool b => return .float (if b then 1 else 0)
    | .str p _ =>
      match readFloat? p with
      | some x => return .float x
      | none => valueError ("could not convert string to float: " ++ (← ev.repr v).lossy)
    | .bytes bs _ =>
      match readFloat? bs with
      | some x => return .float x
      | none => valueError ("could not convert string to float: " ++ (← ev.repr v).lossy)
    | _ =>
      match ← callSpecial? ev v "__float__" [] with
      | some (.float x _) => return .float x
      | some w =>
        typeError ((← typeName v) ++ ".__float__ returned non-float (type " ++ (← typeName w) ++ ")")
      | none =>
        match ← index? ev v with
        | some n => return .float (← requireFloat n)
        | none =>
          typeError ("float() argument must be a string or a real number, not '" ++ (← typeName v) ++ "'")

/-- The parts of an argument of `complex`, unless it is no number. -/
def complexParts? (ev : Evaluator) (v : Value) : Run (Option Complex) := do
  match number? (← content v) with
  | some (.complex z) => return some z
  | some (.float x) => return some (.ofFloat x)
  | some (.int n) => return some (.ofFloat (← requireFloat n))
  | none =>
    match ← callSpecial? ev v "__complex__" [] with
    | some (.complex z _) => return some z
    | some w =>
      typeError ((← typeName v) ++ ".__complex__() must return a complex, not " ++ (← typeName w))
    | none =>
      match ← callSpecial? ev v "__float__" [] with
      | some (.float x _) => return some (.ofFloat x)
      | some w =>
        typeError ((← typeName v) ++ ".__float__ returned non-float (type " ++ (← typeName w) ++ ")")
      | none =>
        match ← index? ev v with
        | some n => return some (.ofFloat (← requireFloat n))
        | none => return none

def makeComplex (ev : Evaluator) (args : List Value) (keywords : Keywords) : Run Value := do
  requireKeywords "complex" ["real", "imag"] keywords
  requireCount "complex" 0 2 args
  match argument? args keywords 0 "real", argument? args keywords 1 "imag" with
  | none, none => return .complex ⟨0, 0⟩
  | re, im =>
    if let some v := re then
      if let .str p _ ← content v then
        if im.isSome then typeError "complex() can't take second arg if first is a string"
        match readComplex? p with
        | some z => return .complex z
        | none => valueError "complex() arg is a malformed string"
    if let some w := im then
      if let .str _ _ ← content w then typeError "complex() second arg can't be a string"
    let a ← match re with
      | none => pure ⟨0, 0⟩
      | some v =>
        match ← complexParts? ev v with
        | some z => pure z
        | none =>
          typeError ("complex() first argument must be a string or a number, not '" ++
            (← typeName v) ++ "'")
    match im with
    | none => return .complex a
    | some w =>
      match ← complexParts? ev w with
      | some b => return .complex ⟨if b.im == 0 then a.re else a.re - b.im, if a.im == 0 then b.re else a.im + b.re⟩
      | none =>
        typeError ("complex() second argument must be a number, not '" ++ (← typeName w) ++ "'")

def makeText (ev : Evaluator) (args : List Value) (keywords : Keywords) : Run Value := do
  requireKeywords "str" ["object", "encoding", "errors"] keywords
  requireCount "str" 0 3 args
  match argument? args keywords 0 "object", argument? args keywords 1 "encoding" with
  | none, _ => return .str []
  | some v, none => return .str (← textOf ev v)
  | some v, some _ =>
    match ← content v with
    | .bytes bs _ => bytesMethod ev "decode" bs [] []
    | .str _ _ => typeError "decoding str is not supported"
    | _ => typeError ("decoding to str: need a bytes-like object, " ++ (← typeName v) ++ " found")

def makeBytes (ev : Evaluator) (args : List Value) (keywords : Keywords) : Run Value := do
  match args with
  | [] => return .bytes []
  | v :: more =>
    match ← content v with
    | .bytes bs _ => return .bytes bs
    | .str p _ =>
      match more.head? <|> keywords.find? "encoding" with
      | some codec =>
        encodeText p (← textArgument "bytes() argument 'encoding' must be str, not " codec).lossy
      | none => typeError "string argument without an encoding"
    | .int n _ =>
      if n < 0 then valueError "negative count"
      return .bytes (← repeated n [0])
    | _ =>
      let bs ← (← itemsOf ev v).mapM fun w => do
        let n ← index ev w
        if n < 0 ∨ 255 < n then valueError "bytes must be in range(0, 256)"
        return n.toNat
      return .bytes bs

def itemsOfFirst (ev : Evaluator) (name : Text) (args : List Value) (keywords : Keywords) :
    Run (List Value) := do
  requireArguments name 0 1 args keywords
  match args with
  | [] => return []
  | v :: _ => itemsOf ev v

def makeRange (ev : Evaluator) (args : List Value) (keywords : Keywords) : Run Value := do
  requireArguments "range" 1 3 args keywords
  match args with
  | [b] => return .range 0 (← index ev b) 1
  | [a, b] => return .range (← index ev a) (← index ev b) 1
  | [a, b, c] =>
    let a ← index ev a
    let b ← index ev b
    let c ← index ev c
    if c = 0 then valueError "range() arg 3 must not be zero"
    return .range a b c
  | _ => return .none

def givenOr (v : Option Value) : Option Value :=
  match v with
  | some .none => none
  | v => v

def backwardName : ViewKind → String
  | .keys => "dict_reversekeyiterator"
  | .values => "dict_reversevalueiterator"
  | .items => "dict_reverseitemiterator"

def makeReversed (ev : Evaluator) (v : Value) : Run Value := do
  match ← callSpecial? ev v "__reversed__" [] with
  | some w => return w
  | none =>
    let inside ← content v
    match inside with
    | .str p _ => new (.iterator (.values "reversed" (characters p).reverse))
    | .bytes bs _ => new (.iterator (.values "reversed" (byteValues bs).reverse))
    | .tuple vs _ => new (.iterator (.values "reversed" vs.reverse))
    | .range a b c =>
      let last := a + (rangeLength a b c - 1 : Int) * c
      new (.iterator (.range last (a - c) (-c)))
    | _ =>
      match ← objectOf inside with
      | .list items => new (.iterator (.values "list_reverseiterator" items.toList.reverse))
      | .dict es => new (.iterator (.values (backwardName .keys) (viewItems .keys es).reverse))
      | .view kind d =>
        new (.iterator (.values (backwardName kind) (viewItems kind (← entries d)).reverse))
      | _ =>
        if (← special? v "__getitem__").isSome then
          let n ← length ev v
          let vs ← (List.range n).mapM fun i => getItem ev v (.int (n - 1 - i : Nat))
          new (.iterator (.values "reversed" vs))
        else typeError ("'" ++ (← typeName v) ++ "' object is not reversible")

/-- The class and the value that `super` looks behind, from the running body if they are not given. -/
def makeSuper (args : List Value) : Run Value := do
  match args with
  | [] =>
    match (← state).frames with
    | f :: _ =>
      match f.owner, f.first with
      | some r, some self =>
        let cls ← match self with
          | .cls c => pure c
          | _ => classOf self
        new (.super (.user r) self cls)
      | none, some _ => fail .runtimeError "super(): __class__ cell not found"
      | _, none => fail .runtimeError "super(): no arguments"
    | [] => fail .runtimeError "super(): no current frame"
  | [.cls c] => new (.super c .none (.core .noneType))
  | .cls c :: self :: _ =>
    let own ← classOf self
    if ← isSubclass own c then new (.super c self own)
    else
      match self with
      | .cls d =>
        if ← isSubclass d c then new (.super c self d)
        else typeError "super(type, obj): obj must be an instance or subtype of type"
      | _ => typeError "super(type, obj): obj must be an instance or subtype of type"
  | v :: _ => typeError ("super() argument 1 must be a type, not " ++ (← typeName v))

/-! ### Classes of the program -/

/-- The names of a class. The instances of one that defines equality, but no hash, cannot be keys. -/
def classNames (attrs : Dictionary Value) : Dictionary Value :=
  if (attrs.find? "__eq__").isSome && (attrs.find? "__hash__").isNone then
    attrs.set "__hash__" .none
  else attrs

def baseClasses (bases : List Value) : Run (List ClassId) :=
  bases.mapM fun b => do
    match b with
    | .cls (.builtin c) =>
      if c.isBase then return .builtin c
      else typeError ("type '" ++ c.name ++ "' is not an acceptable base type")
    | .cls c => return c
    | v =>
      let name ← typeName v
      typeError (name ++ "() takes at most 2 arguments (3 given)")

def firstRepeated : List ClassId → Option ClassId
  | [] => none
  | c :: cs => if c ∈ cs then some c else firstRepeated cs

/-- The kinds of content that a class inherits. -/
def contentKinds (order : List ClassId) : List BuiltinClass :=
  order.filterMap fun c =>
    match c with
    | .builtin (.core .object) => none
    | .builtin (.exception c) => if c = .baseException then some (.exception c) else none
    | .builtin (.core .int) => some (.core .int)
    | .builtin b => some b
    | .user _ => none

/-- Fills in the class at a place of the heap. -/
def defineClass (ev : Evaluator) (r : Ref) (name qualname module : Text) (bases : List Value)
    (attrs : Dictionary Value) (keywords : Keywords) : Run Value := do
  let bases ← baseClasses bases
  match firstRepeated bases with
  | some c => typeError ("duplicate base class " ++ (← className c))
  | none => pure ()
  let bases := if bases.isEmpty then [ClassId.core .object] else bases
  let order ← orderOf bases
  if 1 < (contentKinds order).length then
    typeError "multiple bases have instance lay-out conflict"
  let self := ClassId.user r
  setObject r (.cls ⟨name, qualname, module, bases, self :: order, classNames attrs⟩)
  match ← lookupIn order "__init_subclass__" with
  | some f =>
    if isSpecificMember f then
      let f ← match ← objectOf f with
        | .classMethod g => pure g
        | _ => pure f
      let _ ← ev.call f [.cls self] keywords
    else if !keywords.isEmpty then
      typeError (qualname ++ ".__init_subclass__() takes no keyword arguments")
  | none => pure ()
  for (n, v) in attrs do
    let _ ← callSpecial? ev v "__set_name__" [.cls self, .ofText n]
  return .cls self

/-- The class that a call of `type` with a name, bases and attributes makes. -/
def makeClass (ev : Evaluator) (name : Text) (bases : List Value) (attrs : Dictionary Value)
    (keywords : Keywords) : Run Value := do
  let r ← alloc .plain
  defineClass ev r name name "__main__" bases attrs keywords

/-- An instance of a class, without anything that its initialiser would add. -/
def bareInstance (ev : Evaluator) (make : CoreClass → List Value → Keywords → Run Value)
    (cls : ClassId) (args : List Value) (keywords : Keywords) : Run Value := do
  match ← exceptionKind? cls with
  | some kind =>
    return .ref (← bareException ev cls kind args)
  | none =>
    match ← coreKind cls with
    | .object => new (.instance_ cls [] none)
    | .list => new (.instance_ cls [] (some (← newList [])))
    | .dict => new (.instance_ cls [] (some (← newDict .empty)))
    | .set => new (.instance_ cls [] (some (← new (.set .empty false))))
    | kind => new (.instance_ cls [] (some (← make kind args keywords)))

/-- Initialises an instance as the builtin class that it derives from does it. -/
def initBuiltin (ev : Evaluator) (self : Value) (args : List Value) (keywords : Keywords) :
    Run Unit := do
  match self with
  | .ref r =>
    match ← object r with
    | .exception e => initException ev r e.kind args keywords
    | .instance_ _ _ (some (.ref inside)) =>
      match ← object inside with
      | .list _ => setObject inside (.list (← itemsOfFirst ev "list" args keywords).toArray)
      | .dict _ =>
        setObject inside (.dict .empty)
        updateDict ev inside args keywords
      | .set _ false =>
        requireArguments "set" 0 1 args keywords
        setObject inside (.set (← args.foldlM (mergeItems ev) .empty) false)
      | _ => return
    | .list _ => setObject r (.list (← itemsOfFirst ev "list" args keywords).toArray)
    | .dict _ => updateDict ev r args keywords
    | _ => return
  | _ => return

/-- Whether a class makes its instances from arguments without an initialiser of the program. -/
def takesArguments (cls : ClassId) : Run Bool := do
  match ← exceptionKind? cls with
  | some _ => return true
  | none => return (← coreKind cls) ≠ .object

/-- The constructor of the program that a class inherits, if it has one. -/
def definedIn (cls : ClassId) (name : Text) : Run (Option Value) := do
  match ← classAttribute? cls name with
  | some (.member _ _) => return none
  | found => return found

/-- An instance of a class of the program. -/
def instantiate (ev : Evaluator) (make : CoreClass → List Value → Keywords → Run Value)
    (cls : ClassId) (args : List Value) (keywords : Keywords) : Run Value := do
  let init ← definedIn cls "__init__"
  let self ← match ← definedIn cls "__new__" with
    | some f =>
      let f ← match ← objectOf f with
        | .staticMethod g => pure g
        | _ => pure f
      ev.call f (.cls cls :: args) keywords
    | none =>
      if init.isNone && !(← takesArguments cls) && !(args.isEmpty && keywords.isEmpty) then
        typeError ((← className cls) ++ "() takes no arguments")
      bareInstance ev make cls args keywords
  if ← isSubclass (← classOf self) cls then
    match init with
    | some f =>
      match ← ev.call (← bind ev self cls f) args keywords with
      | .none => pure ()
      | v => typeError ("__init__() should return None, not '" ++ (← typeName v) ++ "'")
    | none =>
      if ← takesArguments cls then initBuiltin ev self args keywords
  return self

end ThaiScript.Machine
