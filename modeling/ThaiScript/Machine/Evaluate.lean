import ThaiScript.Machine.Names
import ThaiScript.Program.Scope

/-!
# Evaluating expressions

Operands are evaluated from left to right. An operation that fails notes its line in the exception;
what its operands raise passes through as it is.
-/

namespace ThaiScript.Machine

open Program Run

/-- The line of an expression that can fail. -/
def lineOf : Expr → Option Nat
  | .joined line _ => some line
  | .name line _ => some line
  | .compare line _ _ => some line
  | .binary line _ _ _ => some line
  | .unary line _ _ => some line
  | .member line _ _ => some line
  | .call line _ _ => some line
  | .subscript line _ _ => some line
  | .comprehension line _ _ _ _ => some line
  | .lambda line _ _ => some line
  | .unsupported line _ => some line
  | .tuple line _ => some line
  | .list line _ => some line
  | .set line _ => some line
  | .dict line _ => some line
  | .conditional line _ _ _ => some line
  | .anyOf line _ => some line
  | .allOf line _ => some line
  | .not line _ => some line
  | .star _ e => lineOf e
  | .named _ e => lineOf e
  | .shared e => lineOf e
  | _ => none

/-- Notes the line of an expression where an operation on its value fails. -/
def locatedAt {α : Type} (f : Frame) (e : Expr) (op : Run α) : Run α :=
  match lineOf e with
  | some line => located f line op
  | none => op

def constant : Constant → Value
  | .none => .none
  | .bool b => .bool b
  | .ellipsis => .ellipsis
  | .int n => .int n .shared
  | .float digits exponent => .float (Decimal.ofDecimal false digits exponent) .shared
  | .imaginary digits exponent => .complex ⟨0, Decimal.ofDecimal false digits exponent⟩ .shared
  | .text p => .str p .shared
  | .bytes p => .bytes p .shared

/-- What an operator of a comparison answers. -/
def compareBy (ev : Evaluator) (light : Bool) (op : CompareOp) (a b : Value) : Run Value := do
  match op with
  | .isSame => return .bool (a.same b)
  | .isNot => return .bool !(a.same b)
  | .contains => return .bool (← contains ev b a)
  | .notContains => return .bool !(← contains ev b a)
  | op =>
    if light && isLightComparison op a b then compareByClass ev op a b else ev.compare op a b

/-- The function that a name of a call stands for, as complaints show it. -/
def calleeName (v : Value) : Run Text := do
  match v with
  | .cls c => classQualname c
  | .builtin n => return n
  | .method f _ =>
    match ← objectOf f with
    | .function g => return g.qualname
    | _ => typeName v
  | _ =>
    match ← objectOf v with
    | .function g => return g.qualname
    | _ => typeName v

/-- The keywords that an unpacked mapping gives, behind those given before. -/
def unpackKeywords (ev : Evaluator) (callee v : Value) (before : Keywords) : Run Keywords := do
  let name ← calleeName callee
  let isMapping ← match ← objectOf (← content v) with
    | .dict _ => pure true
    | _ => hasAttribute ev v "keys"
  if !isMapping then
    typeError (name ++ "() argument after ** must be a mapping, not " ++ (← typeName v))
  (← entriesFrom ev v).foldlM (fun ks (k, w) => do
    match k with
    | .str p _ =>
      if (ks.find? p.lossy).isSome then
        typeError (name ++ "() got multiple values for keyword argument '" ++ p.lossy ++ "'")
      return ks ++ [(p.lossy, w)]
    | _ => typeError "keywords must be strings") before

/-- The items that are unpacked into a call. -/
def unpackArguments (ev : Evaluator) (callee v : Value) : Run (List Value) := do
  let iterable : Bool := (← builtinIterator? (← content v)).isSome ||
    (← special? v "__iter__").isSome || (← special? v "__getitem__").isSome
  if iterable then itemsOf ev v
  else
    typeError ((← calleeName callee) ++ "() argument after * must be an iterable, not " ++
      (← typeName v))

/-- Unpacks into a display of items. -/
def unpackItems (ev : Evaluator) (v : Value) : Run (List Value) := do
  let iterable : Bool := (← builtinIterator? (← content v)).isSome ||
    (← special? v "__iter__").isSome || (← special? v "__getitem__").isSome
  if iterable then itemsOf ev v
  else typeError ("Value after * must be an iterable, not " ++ (← typeName v))

/-- Does something for each item of a source. -/
def forEach (next : Run (Option Value)) (act : Value → Run Unit) : (rounds : Nat) → Run Unit
  | 0 => throw .exhausted
  | rounds + 1 => do
    match ← next with
    | none => return
    | some v =>
      act v
      forEach next act rounds

/-- The names that the targets of a comprehension bind. -/
def clauseNames (cs : List Clause) : List Text :=
  cs.flatMap fun c =>
    match c with
    | .mk t _ _ => (Scope.target t).filterMap fun e =>
        match e with
        | .bind n => some n
        | _ => none

def comprehensionName : ComprehensionKind → Text
  | .list => "<listcomp>"
  | .set => "<setcomp>"
  | .dict => "<dictcomp>"
  | .generator => "<genexpr>"

/-- The frame of a comprehension. -/
def comprehensionFrame (f : Frame) (kind : ComprehensionKind) (names : List Text) : Run Frame := do
  let r ← alloc (.scope (names.eraseDups.map fun n => (n, none)).toArray)
  let name := comprehensionName kind
  return { f with
    name := name
    qualifier := f.qualifier ++ name ++ ".<locals>."
    place := .scope r
    names := names
    globalNames := f.globalNames.filter fun n => n ∉ names
    enclosing := f.around
    first := none
    settled := false }

/-- Adds an item to what a comprehension collects. -/
def collect (ev : Evaluator) (r : Ref) (key : Option Value) (v : Value) : Run Unit := do
  match key with
  | some k => putEntry ev r k v
  | none =>
    match ← object r with
    | .set members frozen => setObject r (.set (← insertMember ev members v) frozen)
    | _ => modifyList r (·.push v)

/-- The object that a comprehension collects in. -/
def emptyCollection : ComprehensionKind → Object
  | .set => .set .empty false
  | .dict => .dict .empty
  | _ => .list #[]

/-- The names that a body of a function binds, and those that it declares to be of the module. -/
def namesOfBody (params : List Text) (body : Body) : List Text × List Text :=
  match body with
  | .block ss =>
    let es := Scope.stmts ss
    (Scope.localNames params es, Scope.globalNames es)
  | .value e => (Scope.localNames params (Scope.expr e), [])

/-- A function that is defined in a body. -/
def newFunction (f : Frame) (name : Text) (params : List Parameter) (body : Body) : Run Value := do
  let (locals, globals) := namesOfBody (params.map (·.name)) body
  let isGlobal : Bool := name ∈ f.globalNames
  new (.function {
    name := name
    qualname := if isGlobal then name else f.qualifier ++ name
    params := params
    body := body
    localNames := locals
    globalNames := globals
    globals := f.globals
    enclosing := f.around
    owner := f.owner
    attrs := [] })

/-- Splits the values for targets, of which the one at `star` takes what is left over. -/
def splitForTargets (count : Nat) (star : Option Nat) (vs : List Value) : Run (List Value) := do
  let n := vs.length
  match star with
  | none =>
    if n < count then
      valueError ("not enough values to unpack (expected " ++ Text.ofNat count ++ ", got " ++
        Text.ofNat n ++ ")")
    if count < n then
      valueError ("too many values to unpack (expected " ++ Text.ofNat count ++ ")")
    return vs
  | some i =>
    if n + 1 < count then
      valueError ("not enough values to unpack (expected at least " ++ Text.ofNat (count - 1) ++
        ", got " ++ Text.ofNat n ++ ")")
    let behind := count - 1 - i
    let middle := (vs.drop i).take (n - i - behind)
    return vs.take i ++ [← newList middle] ++ vs.drop (n - behind)

def unpackValues (ev : Evaluator) (count : Nat) (star : Option Nat) (v : Value) : Run (List Value) := do
  let iterable : Bool := (← builtinIterator? (← content v)).isSome ||
    (← special? v "__iter__").isSome || (← special? v "__getitem__").isSome
  if !iterable then typeError ("cannot unpack non-iterable " ++ (← typeName v) ++ " object")
  splitForTargets count star (← itemsOf ev v)

/-- The values for several targets. -/
def unpackFor (ev : Evaluator) (ts : List Expr) (v : Value) : Run (List Value) :=
  unpackValues ev ts.length (ts.findIdx? Scope.isStar) v

/-- Raises the exception for a generator inside of which an item was asked for that was not there. -/
def generatorStopped {α : Type} (e : Ref) : Run α := do
  let error := exceptionOf .runtimeError [.ofString "generator raised StopIteration"]
  let r ← alloc (.exception
    { error with cause := some e, context := some e, suppressContext := true })
  throw (.raised r)

/-- Runs a generator for its next item. One that fails is finished. -/
def runGenerator (r : Ref) (g : Generator) (next : Run (Option (Value × List Value))) :
    Run (Option Value) := do
  setIterator r (.running g.qualname)
  let finish : Run Unit := setIterator r (.finished g.qualname)
  let item ← tryCatch (framed g.frame next) fun s => do
    finish
    match s with
    | .raised e =>
      match ← exceptionObject e with
      | some x =>
        if x.kind.isA .stopIteration then located g.frame g.line (generatorStopped e) else throw s
      | none => throw s
    | .exhausted => throw s
  match item with
  | some (v, sources) =>
    setIterator r (.generated { g with sources })
    return some v
  | none =>
    finish
    return none

mutual

def expr (ev : Evaluator) (f : Frame) : Expr → Run Value
  | .const c => return constant c
  | .shared e => return (← expr ev f e).shared
  | .joined line ps => do identified (.str (← formatParts ev f line ps))
  | .name line n => located f line (loadName f n)
  | .tuple line es => do identified (.tuple (← items ev f line es))
  | .list line es => do newList (← items ev f line es)
  | .set line es => do
    let vs ← items ev f line es
    located f line do
      let t ← setOf ev vs
      -- A display of constants is a frozen set first, made anew from its members in their order,
      -- which an empty set is then merged with.
      if 2 < es.length && es.all Expr.isConstant then
        new (.set (← mergeSets ev .empty (← setOf ev t.toList)) false)
      else new (.set t false)
  | .dict line ds => do
    let r ← alloc (.dict .empty)
    dictItems ev f line r [] ds
    return .ref r
  | .star _ e => expr ev f e
  | .named n e => do
    let v ← expr ev f e
    storeName f n v
    return v
  | .conditional _ test body orelse => do
    if ← holdsFor ev f test (expr ev f test) then expr ev f body else expr ev f orelse
  | .anyOf line es => firstOf ev f line true es
  | .allOf line es => firstOf ev f line false es
  | .not line e => do
    let v ← expr ev f e
    return .bool !(← located f line (truth ev v))
  | .compare line left rest => do
    let v ← expr ev f left
    comparisons ev f line false v rest
  | .binary line op a b => do
    let x ← expr ev f a
    let y ← expr ev f b
    located f line do
      identified (← binaryWith ev (formatPercent ev) (complaintSign op false) op x y)
  | .unary line op e => do
    let v ← expr ev f e
    located f line (do identified (← unary ev op v))
  | .member line e n => do
    let v ← expr ev f e
    located f line (getAttribute ev v n)
  | .call line g as => do
    let callee ← expr ev f g
    let (args, keywords) ← arguments ev f line callee as [] []
    let call : Run Value := ev.call callee args keywords
    located f line (if f.settled && isSettling callee args keywords then relieved call else call)
  | .subscript line e i => do
    let v ← expr ev f e
    let i ← expr ev f i
    located f line (getItem ev v i)
  | .slice a b c => do
    let a ← optional ev f a
    let b ← optional ev f b
    let c ← optional ev f c
    return .slice a b c
  | .comprehension line kind key value cs => do
    let inner ← comprehensionFrame f kind (clauseNames cs)
    let r ← alloc (emptyCollection kind)
    let emit : Run Unit := do
      let k ← key? ev inner key
      let v ← expr ev inner value
      located inner line (collect ev r k v)
    match cs with
    | [] => return .none
    | .mk target iter conditions :: rest =>
      let source ← expr ev f iter
      let it ← located f line (iteratorOf ev source)
      match kind with
      | .generator =>
        new (.iterator (.generated {
          frame := inner
          line := line
          qualname := f.qualifier ++ comprehensionName kind
          clauses := cs
          value := value
          sources := [it] }))
      | _ =>
        let act (v : Value) : Run Unit := do
          assign ev inner target v
          if ← conditionsHold ev inner conditions then clauses ev inner line rest emit
        located f line (framed inner
          (forEach (located inner line (next? ev it)) act ev.rounds))
        return .ref r
  | .lambda _ ps e => do
    newFunction f "<lambda>" (← params ev f ps) (.value e)
  | .unsupported line what =>
    located f line (fail .notImplementedError (what.toList ++ " is not supported"))

def optional (ev : Evaluator) (f : Frame) : Option Expr → Run Value
  | none => return .none
  | some e => expr ev f e

def key? (ev : Evaluator) (f : Frame) : Option Expr → Run (Option Value)
  | none => return none
  | some e => do return some (← expr ev f e)

/-- The items of a display. -/
def items (ev : Evaluator) (f : Frame) (line : Nat) : List Expr → Run (List Value)
  | [] => return []
  | .star _ e :: es => do
    let v ← expr ev f e
    let vs ← located f line (unpackItems ev v)
    return vs ++ (← items ev f line es)
  | e :: es => do
    let v ← expr ev f e
    return v :: (← items ev f line es)

/-- The entries of a display. `waiting` are those in front, the latest first; they are put in together
when no other entry follows. -/
def dictItems (ev : Evaluator) (f : Frame) (line : Nat) (r : Ref) (waiting : List (Value × Value)) :
    List DictItem → Run Unit
  | [] => located f line (putEntries ev r waiting.reverse)
  | .pair k v :: ds => do
    let key ← expr ev f k
    let value ← expr ev f v
    dictItems ev f line r ((key, value) :: waiting) ds
  | .unpack e :: ds => do
    located f line (putEntries ev r waiting.reverse)
    let v ← expr ev f e
    let isMapping ← match ← objectOf (← content v) with
      | .dict _ => pure true
      | _ => hasAttribute ev v "keys"
    if !isMapping then
      located f line (typeError ("'" ++ (← typeName v) ++ "' object is not a mapping"))
    located f line (do putEntries ev r (← entriesFrom ev v))
    dictItems ev f line r [] ds

/-- The first value whose truth is `stop`, or else the last one. -/
def firstOf (ev : Evaluator) (f : Frame) (line : Nat) (stop : Bool) : List Expr → Run Value
  | [] => return .none
  | [e] => expr ev f e
  | e :: es => do
    let v ← expr ev f e
    if (← located f line (truth ev v)) == stop then return v else firstOf ev f line stop es

/-- A chain of comparisons, which ends with the first that does not hold. -/
def comparisons (ev : Evaluator) (f : Frame) (line : Nat) (light : Bool) (left : Value) :
    List Comparison → Run Value
  | [] => return left
  | [.mk op e] => do
    let right ← expr ev f e
    located f line (compareBy ev light op left right)
  | .mk op e :: cs => do
    let right ← expr ev f e
    let v ← located f line (compareBy ev light op left right)
    if ← located f line (truth ev v) then comparisons ev f line light right cs else return v

/-- Whether an expression that decides what is done next holds; `value` evaluates it. -/
def holdsFor (ev : Evaluator) (f : Frame) : Expr → (value : Run Value) → Run Bool
  | .not _ e, _ => do return !(← holdsFor ev f e (expr ev f e))
  | .anyOf _ es, _ => holdsAmong ev f true es
  | .allOf _ es, _ => holdsAmong ev f false es
  | .conditional _ test body orelse, _ => do
    if ← holdsFor ev f test (expr ev f test) then holdsFor ev f body (expr ev f body)
    else holdsFor ev f orelse (expr ev f orelse)
  | .compare line left rest, _ => do
    let v ← expr ev f left
    let v ← comparisons ev f line f.settled v rest
    located f line (truth ev v)
  | e, value => do
    let v ← value
    locatedAt f e (truth ev v)

/-- Whether one of several expressions is `stop`, and else the opposite. -/
def holdsAmong (ev : Evaluator) (f : Frame) (stop : Bool) : List Expr → Run Bool
  | [] => return !stop
  | e :: es => do
    if (← holdsFor ev f e (expr ev f e)) == stop then return stop else holdsAmong ev f stop es

/-- The arguments of a call, behind those that are evaluated already. -/
def arguments (ev : Evaluator) (f : Frame) (line : Nat) (callee : Value) : List Argument →
    List Value → Keywords → Run (List Value × Keywords)
  | [], args, keywords => return (args.reverse, keywords)
  | .positional e :: as, args, keywords => do
    let v ← expr ev f e
    arguments ev f line callee as (v :: args) keywords
  | .unpack e :: as, args, keywords => do
    let v ← expr ev f e
    let vs ← located f line (unpackArguments ev callee v)
    arguments ev f line callee as (vs.reverse ++ args) keywords
  | .keyword n e :: as, args, keywords => do
    let v ← expr ev f e
    if (keywords.find? n).isSome then
      located f line (do
        typeError ((← calleeName callee) ++ "() got multiple values for keyword argument '" ++ n ++
          "'"))
    arguments ev f line callee as args (keywords ++ [(n, v)])
  | .unpackKeywords e :: as, args, keywords => do
    let v ← expr ev f e
    let ks ← located f line (unpackKeywords ev callee v keywords)
    arguments ev f line callee as args ks

def conditionsHold (ev : Evaluator) (f : Frame) : List Expr → Run Bool
  | [] => return true
  | e :: es => do if ← holdsFor ev f e (expr ev f e) then conditionsHold ev f es else return false

/-- The loops of a comprehension, inside of which `emit` collects an item. -/
def clauses (ev : Evaluator) (f : Frame) (line : Nat) : List Clause → Run Unit → Run Unit
  | [], emit => emit
  | .mk target iter conditions :: rest, emit => do
    let source ← expr ev f iter
    let it ← located f line (iteratorOf ev source)
    let act (v : Value) : Run Unit := do
      assign ev f target v
      if ← conditionsHold ev f conditions then clauses ev f line rest emit
    forEach (located f line (next? ev it)) act ev.rounds

def params (ev : Evaluator) (f : Frame) : List Param → Run (List Parameter)
  | [] => return []
  | .mk name kind default_ _ :: ps => do
    let d ← key? ev f default_
    return ⟨name, kind, d⟩ :: (← params ev f ps)

def formatParts (ev : Evaluator) (f : Frame) (line : Nat) : List FormatPart → Run Points
  | [] => return []
  | .text p :: ps => return p ++ (← formatParts ev f line ps)
  | .value e mark spec :: ps => do
    let v ← expr ev f e
    let spec ← formatParts ev f line spec
    let shown ← located f line (do formatValue ev (← convert ev mark v) spec)
    return shown ++ (← formatParts ev f line ps)

/-- Assigns a value to a target. -/
def assign (ev : Evaluator) (f : Frame) : Expr → Value → Run Unit
  | .name line n, v => located f line (storeName f n v)
  | .member line e n, v => do
    let o ← expr ev f e
    located f line (setAttribute ev o n v)
  | .subscript line e i, v => do
    let o ← expr ev f e
    let i ← expr ev f i
    located f line (setItem ev o i v)
  | .tuple line ts, v => do assignAll ev f ts (← located f line (unpackFor ev ts v))
  | .list line ts, v => do assignAll ev f ts (← located f line (unpackFor ev ts v))
  | .star _ e, v => assign ev f e v
  | _, _ => return

def assignAll (ev : Evaluator) (f : Frame) : List Expr → List Value → Run Unit
  | t :: ts, v :: vs => do
    assign ev f t v
    assignAll ev f ts vs
  | _, _ => return

end

/-- The next item of a generator, with what its loops then run over, innermost first. -/
def generate (ev : Evaluator) (g : Generator) : (rounds : Nat) → (sources : List Value) →
    Run (Option (Value × List Value))
  | 0, _ => throw .exhausted
  | _ + 1, [] => return none
  | rounds + 1, it :: outer => do
    match g.clauses[outer.length]?, ← located g.frame g.line (next? ev it) with
    | some (.mk target _ conditions), some v =>
      assign ev g.frame target v
      if !(← conditionsHold ev g.frame conditions) then generate ev g rounds (it :: outer)
      else match g.clauses[outer.length + 1]? with
        | none => return some (← expr ev g.frame g.value, it :: outer)
        | some (.mk _ iter _) =>
          let source ← expr ev g.frame iter
          let inner ← located g.frame g.line (iteratorOf ev source)
          generate ev g rounds (inner :: it :: outer)
    | _, _ => generate ev g rounds outer

/-- Asks a generator for its next item. -/
def resumeOf (ev : Evaluator) (r : Ref) : Run (Option Value) := do
  match ← object r with
  | .iterator (.generated g) => runGenerator r g (generate ev g ev.rounds g.sources)
  | _ => return none

end ThaiScript.Machine
