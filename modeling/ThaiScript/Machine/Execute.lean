import ThaiScript.Machine.Evaluate

/-!
# Executing statements

A statement goes on to the next one, leaves or repeats a loop, or answers for its function. A final
block runs however its statement ends, and what it ends in itself goes first.
-/

namespace ThaiScript.Machine

open Program Run

inductive Flow
  | next
  | leave
  | again
  | answer (v : Value)

def repeatWhile (test : Run Bool) (body orelse : Run Flow) : (rounds : Nat) → Run Flow
  | 0 => throw .exhausted
  | rounds + 1 => do
    if ← test then
      match ← body with
      | .leave => return .next
      | .answer v => return .answer v
      | _ => repeatWhile test body orelse rounds
    else orelse

def repeatFor (next : Run (Option Value)) (body : Value → Run Flow) (orelse : Run Flow) :
    (rounds : Nat) → Run Flow
  | 0 => throw .exhausted
  | rounds + 1 => do
    match ← next with
    | none => orelse
    | some v =>
      match ← body v with
      | .leave => return .next
      | .answer v => return .answer v
      | _ => repeatFor next body orelse rounds

/-! ### Exceptions -/

/-- The exception that a raised value stands for: itself, or an instance of its class. -/
def exceptionFor (ev : Evaluator) (complaint : Text) (v : Value) : Run Ref := do
  match v with
  | .cls c =>
    match ← exceptionKind? c with
    | some _ =>
      let e ← ev.call v [] []
      match e with
      | .ref r =>
        match ← exceptionObject r with
        | some _ => return r
        | none =>
          typeError ("calling " ++ (← ev.repr v).lossy ++
            " should have returned an instance of BaseException, not " ++ (← ev.repr (.cls (← classOf e))).lossy)
      | e =>
        typeError ("calling " ++ (← ev.repr v).lossy ++
          " should have returned an instance of BaseException, not " ++ (← ev.repr (.cls (← classOf e))).lossy)
    | none => typeError complaint
  | .ref r =>
    match ← exceptionObject r with
    | some _ => return r
    | none => typeError complaint
  | _ => typeError complaint

/-- Raises a value, from a cause if there is one. -/
def raiseValue (ev : Evaluator) (v : Value) (cause : Option Value) : Run Flow := do
  let e ← exceptionFor ev "exceptions must derive from BaseException" v
  match cause with
  | none => pure ()
  | some .none => modifyException e ({ · with cause := none, suppressContext := true })
  | some c =>
    let c ← exceptionFor ev "exception causes must derive from BaseException" c
    modifyException e ({ · with cause := some c, suppressContext := true })
  raise e

/-- Raises the exception that is being handled once more. -/
def raiseAgain (f : Frame) (line : Nat) : Run Flow := do
  match (← state).handled with
  | e :: _ => throw (.raised e)
  | [] => located f line (fail .runtimeError "No active exception to reraise")

/-- Whether an exception is one of a class, or of one of several. -/
def isCaught (e : Ref) (types : Value) : Run Bool := do
  let complaint : Text := "catching classes that do not inherit from BaseException is not allowed"
  let known (v : Value) : Run ClassId := do
    match v with
    | .cls c =>
      match ← exceptionKind? c with
      | some _ => return c
      | none => typeError complaint
    | _ => typeError complaint
  let classes ← match types with
    | .tuple vs _ => vs.mapM known
    | v => do pure [← known v]
  let cls ← classOf (.ref e)
  classes.anyM fun c => isSubclass cls c

/-- Runs a block and, however it ends, the final block. -/
def finally_ (body final : Run Flow) : Run Flow := do
  let ended : Except Signal Flow ← tryCatch (do return .ok (← body)) fun s => return .error s
  match ended with
  | .ok flow =>
    match ← final with
    | .next => return flow
    | other => return other
  | .error (.raised e) =>
    match ← handling e final with
    | .next => throw (.raised e)
    | other => return other
  | .error s => throw s

/-- Runs a block, then what goes on if it raised nothing, or else the handlers with the exception. -/
def tryBody (body orelse : Run Flow) (handle : Ref → Run Flow) : Run Flow := do
  let ended : Except Signal Flow ← tryCatch (do return .ok (← body)) fun s => return .error s
  match ended with
  | .ok .next => orelse
  | .ok flow => return flow
  | .error (.raised e) => handling e (handle e)
  | .error s => throw s

/-- Runs a handler with the exception bound to a name, which is unbound in the end. -/
def withName (f : Frame) (name : Option Text) (e : Ref) (body : Run Flow) : Run Flow := do
  match name with
  | none => body
  | some n =>
    storeName f n (.ref e)
    let unbind : Run Unit := do
      storeName f n .none
      deleteName f n
    let flow ← tryCatch body fun s => do
      unbind
      throw s
    unbind
    return flow

/-! ### Managed blocks -/

/-- A method that the class of a value has. -/
def managerMethod (ev : Evaluator) (v : Value) (name : Text) : Run Value := do
  let cls ← classOf v
  match ← classAttribute? cls name with
  | some found => bind ev v cls found
  | none =>
    typeError ("'" ++ (← typeName v) ++ "' object does not support the context manager protocol")

/-- Runs a block that a value manages. -/
def managed (ev : Evaluator) (f : Frame) (line : Nat) (manager : Value) (body : Value → Run Flow) :
    Run Flow := do
  let enter ← located f line (managerMethod ev manager "__enter__")
  let leave ← located f line (managerMethod ev manager "__exit__")
  let v ← located f line (ev.call enter [] [])
  let ended : Except Signal Flow ← tryCatch (do return .ok (← body v)) fun s => return .error s
  match ended with
  | .ok flow =>
    let _ ← located f line (ev.call leave [.none, .none, .none] [])
    return flow
  | .error (.raised e) =>
    let kept ← handling e do
      let r ← located f line (ev.call leave [.cls (← classOf (.ref e)), .ref e, .none] [])
      truth ev r
    if kept then return .next else throw (.raised e)
  | .error s => throw s

/-! ### Definitions and imports -/

/-- Applies decorators, the last one first, each on its own line. -/
def decorate (ev : Evaluator) (f : Frame) (decorators : List (Nat × Value)) (v : Value) :
    Run Value :=
  decorators.foldrM (fun d v => located f d.1 (ev.call d.2 [v] [])) v

def classFrame (f : Frame) (name : Text) (globalNames : List Text) (r owner : Ref) : Frame :=
  { f with
    name := name
    qualifier := f.qualifier ++ name ++ "."
    place := .classBody r
    names := []
    globalNames := globalNames
    enclosing := f.around
    owner := some owner
    first := none
    settled := false }

/-- The text that a name of a class body is bound to. -/
def textName (es : Entries) (name default_ : Text) : Text :=
  match es.value? name with
  | some (.str p _) => p.lossy
  | _ => default_

/-- Runs the body of a class and makes the class. -/
def buildClass (ev : Evaluator) (f : Frame) (name : Text) (bases : List Value) (keywords : Keywords)
    (globalNames : List Text) (body : Frame → Run Flow) : Run Value := do
  let module : Value ← match (← entries f.globals).value? "__name__" with
    | some v => pure v
    | none => pure (.ofString "builtins")
  let isGlobal : Bool := name ∈ f.globalNames
  let qualname := if isGlobal then name else f.qualifier ++ name
  let r ← alloc (.dict (Entries.ofNames [
    ("__module__".toList, module), ("__qualname__".toList, .ofText qualname)]))
  let owner ← alloc .plain
  let frame := classFrame f name globalNames r owner
  let _ ← calling (framed frame (body frame))
  let es ← entries r
  let module := textName es "__module__" "builtins"
  let qualname ← match es.value? "__qualname__" with
    | some (.str p _) => pure p.lossy
    | some v => typeError ("type __qualname__ must be a str, not " ++ (← typeName v))
    | none => pure qualname
  let attrs := es.names.filter fun e =>
    e.1 ≠ "__module__".toList && e.1 ≠ "__qualname__".toList
  defineClass ev owner name qualname module bases attrs
    (keywords.filter fun k => k.1 ≠ "metaclass".toList)

/-- The name that an import without another name binds, and the module for it. -/
def bindImport (f : Frame) (path : List Text) (name : Option Text) : Run Unit := do
  let last ← importDotted path
  match name with
  | some n => storeName f n last
  | none =>
    match path with
    | n :: _ => storeName f n (← importModule n)
    | [] => return

def importNames (ev : Evaluator) (f : Frame) (dots : Nat) (path : List Text)
    (names : Option (List (Text × Option Text))) : Run Unit := do
  if dots ≠ 0 then
    failAbout .importError "attempted relative import with no known parent package" "name" .none
  let module ← importDotted path
  match names with
  | some ns =>
    for (n, as_) in ns do storeName f (as_.getD n) (← importedName ev module path n)
  | none =>
    for n in ← publicNames ev module do storeName f n (← getAttribute ev module n)

/-- Assigns the answer of an operator to the target that the first operand stands at. -/
def augmentTarget (ev : Evaluator) (f : Frame) (line : Nat) (op : BinaryOp) (target : Expr)
    (value : Run Value) : Run Unit := do
  let combine (a : Value) : Run Value := do
    let b ← value
    located f line (do identified (← augment ev (formatPercent ev) op a b))
  match target with
  | .name l n => do
    let a ← located f l (loadName f n)
    storeName f n (← combine a)
  | .member l e n => do
    let o ← expr ev f e
    let a ← located f l (getAttribute ev o n)
    let r ← combine a
    located f l (setAttribute ev o n r)
  | .subscript l e i => do
    let o ← expr ev f e
    let i ← expr ev f i
    let a ← located f l (getItem ev o i)
    let r ← combine a
    located f l (setItem ev o i r)
  | _ => return

mutual

/-- Unbinds a target. -/
def delete (ev : Evaluator) (f : Frame) : Expr → Run Unit
  | .name line n => located f line (deleteName f n)
  | .member line e n => do
    let o ← expr ev f e
    located f line (deleteAttribute ev o n)
  | .subscript line e i => do
    let o ← expr ev f e
    let i ← expr ev f i
    located f line (deleteItem ev o i)
  | .tuple _ ts => deleteAll ev f ts
  | .list _ ts => deleteAll ev f ts
  | _ => return

def deleteAll (ev : Evaluator) (f : Frame) : List Expr → Run Unit
  | [] => return
  | t :: ts => do
    delete ev f t
    deleteAll ev f ts

end

/-- Whether annotations are evaluated in a body. -/
def evaluatesAnnotations (f : Frame) : Bool :=
  match f.place with
  | .scope _ => false
  | _ => true

/-- Parameters in the order in which their annotations are evaluated. -/
def inAnnotatedOrder (ps : List Param) : List Param :=
  [ParamKind.normal, .positionalOnly, .rest, .keywordOnly, .keywords].flatMap fun k =>
    ps.filter (·.kind = k)

mutual

def stmt (ev : Evaluator) (f : Frame) : Stmt → Run Flow
  | .expr _ e => do
    let _ ← expr ev f e
    return .next
  | .assign _ ts e => do
    let v ← expr ev f e
    for t in ts do assign ev f t v
    return .next
  | .annotate _ t annotation value => do
    match value with
    | some e => assign ev f t (← expr ev f e)
    | none => pure ()
    if evaluatesAnnotations f then
      let _ ← expr ev f annotation
    return .next
  | .augment line t op e => do
    augmentTarget ev f line op t (expr ev f e)
    return .next
  | .ret _ e => do return .answer (← optional ev f e)
  | .raise line none _ => raiseAgain f line
  | .raise line (some e) cause => do
    let v ← expr ev f e
    let c ← key? ev f cause
    located f line (raiseValue ev v c)
  | .global _ _ => return .next
  | .nonlocal _ _ => return .next
  | .del _ ts => do
    deleteAll ev f ts
    return .next
  | .assert line test message => do
    if ← holdsFor ev f test (expr ev f test) then return .next
    else
      let m ← key? ev f message
      located f line (failWith .assertionError m.toList)
  | .import_ line ms => do
    for (path, as_) in ms do located f line (bindImport f path as_)
    return .next
  | .importFrom line dots path ns => do
    located f line (importNames ev f dots path ns)
    return .next
  | .pass => return .next
  | .break_ _ => return .leave
  | .continue_ _ => return .again
  | .if_ test body orelse => do
    if ← holdsFor ev f test (expr ev f test) then block ev f body else block ev f orelse
  | .while_ _ test body orelse =>
    repeatWhile (holdsFor ev f test (expr ev f test)) (block ev f body) (block ev f orelse) ev.rounds
  | .for_ line target iter body orelse => do
    let source ← expr ev f iter
    let it ← located f line (iteratorOf ev source)
    let round (v : Value) : Run Flow := do
      assign ev f target v
      block ev f body
    repeatFor (located f line (next? ev it)) round (block ev f orelse) ev.rounds
  | .with_ line is body => withItems ev f line is (block ev f body)
  | .try_ _ body hs orelse final =>
    let main : Run Flow :=
      match hs with
      | [] => block ev f body
      | hs => tryBody (block ev f body) (block ev f orelse) fun e => handlers ev f e hs
    match final with
    | [] => main
    | final => finally_ main (block ev f final)
  | .function _ ds name ps returns body => do
    let decorators ← ds.mapM fun d => do return (d.1, ← expr ev f d.2)
    let evaluated ← params ev f ps
    for p in inAnnotatedOrder ps do
      let _ ← optional ev f p.annotation?
    let _ ← optional ev f returns
    let g ← newFunction f name evaluated (.block body)
    storeName f name (← decorate ev f decorators g)
    return .next
  | .class_ line ds name as body => do
    let decorators ← ds.mapM fun d => do return (d.1, ← expr ev f d.2)
    let (bases, keywords) ← arguments ev f line (.builtin "__build_class__") as [] []
    let c ← located f line (buildClass ev f name bases keywords
      (Scope.globalNames (Scope.stmts body)) fun g => block ev g body)
    storeName f name (← decorate ev f decorators c)
    return .next
  | .unsupported line what =>
    located f line (fail .notImplementedError (what.toList ++ " is not supported"))

def block (ev : Evaluator) (f : Frame) : List Stmt → Run Flow
  | [] => return .next
  | s :: ss => do
    match ← stmt ev f s with
    | .next => block ev f ss
    | flow => return flow

def withItems (ev : Evaluator) (f : Frame) (line : Nat) : List (Expr × Option Expr) → Run Flow →
    Run Flow
  | [], body => body
  | (e, target) :: is, body => do
    let manager ← expr ev f e
    managed ev f line manager fun v => do
      match target with
      | some t => assign ev f t v
      | none => pure ()
      withItems ev f line is body

/-- Runs the first handler for an exception, or else lets it go on. -/
def handlers (ev : Evaluator) (f : Frame) (e : Ref) : List Handler → Run Flow
  | [] => throw (.raised e)
  | .mk line type name body :: hs => do
    let caught ← match type with
      | none => pure true
      | some t => do
        let types ← expr ev f t
        located f line (isCaught e types)
    if caught then withName f name e (block ev f body) else handlers ev f e hs

end

/-- Runs the body of a function. -/
def runBody (ev : Evaluator) (f : Frame) (body : Body) : Run Value := do
  match body with
  | .value e => expr ev f e
  | .block ss =>
    match ← block ev f ss with
    | .answer v => return v
    | _ => return .none

/-- The evaluator whose operations may call each other to a depth. -/
def evaluator : (depth : Nat) → Evaluator
  | 0 => {
      rounds := 0
      run := fun _ _ => throw .exhausted
      call := fun _ _ _ => throw .exhausted
      repr := fun _ => throw .exhausted
      resume := fun _ => throw .exhausted
      equal := fun _ _ => throw .exhausted
      compare := fun _ _ _ => throw .exhausted }
  | depth + 1 => {
      rounds := depth
      run := fun f body => runBody (evaluator depth) f body
      call := fun f args keywords => callOf (evaluator depth) f args keywords
      repr := fun v => reprOf (evaluator depth) v
      resume := fun r => resumeOf (evaluator depth) r
      equal := fun a b => equalOf (evaluator depth) a b
      compare := fun op a b => compareOf (evaluator depth) op a b }

/-- The depth of calls and the number of rounds that no run gets to. -/
def endless : Nat := 10 ^ 15

def standard : Evaluator := evaluator endless

end ThaiScript.Machine
