import ThaiScript.Machine.Compare

/-!
# Iteration

An iterator gives items one after the other until it has no more. Iterators over lists and
dictionaries look at the object as it is when the next item is asked for.
-/

namespace ThaiScript.Machine

open Run

def characters (p : Points) : List Value := p.map fun n => .str [n]

def byteValues (bs : List Nat) : List Value := bs.map fun b => .int (Int.ofNat b)

def viewItems (kind : ViewKind) (es : Entries) : List Value :=
  match kind with
  | .keys => es.toList.map (·.1)
  | .values => es.toList.map (·.2)
  | .items => es.toList.map fun e => .tuple [e.1, e.2]

def viewItem (kind : ViewKind) (e : Value × Value) : Value :=
  match kind with
  | .keys => e.1
  | .values => e.2
  | .items => .tuple [e.1, e.2]

def entriesIterator (kind : ViewKind) (d : Ref) (es : Entries) : Iterator :=
  .entries kind d 0 (some es.size) es.size

def notIterable {α : Type} (v : Value) : Run α := do
  typeError ("'" ++ (← typeName v) ++ "' object is not iterable")

/-- An iterator over a value of a builtin class, if there is one. -/
def builtinIterator? (v : Value) : Run (Option Value) := do
  match v with
  | .str p _ =>
    let name := if p.all (· < 0x80) then "str_ascii_iterator" else "str_iterator"
    return some (← new (.iterator (.values name (characters p))))
  | .bytes bs _ => return some (← new (.iterator (.values "bytes_iterator" (byteValues bs))))
  | .tuple vs _ => return some (← new (.iterator (.values "tuple_iterator" vs)))
  | .range a b c => return some (← new (.iterator (.range a b c)))
  | .ref r =>
    match ← object r with
    | .list _ => return some (← new (.iterator (.list r 0)))
    | .dict es => return some (← new (.iterator (entriesIterator .keys r es)))
    | .set members _ =>
      return some (← new (.iterator (.members members.toList r members.size)))
    | .view kind d => return some (← new (.iterator (entriesIterator kind d (← entries d))))
    | .iterator _ => return some v
    | .file .. => return some v
    | _ => return none
  | _ => return none

def isIterator (v : Value) : Run Bool := do
  match ← objectOf v with
  | .iterator _ | .file .. => return true
  | _ => return (← special? v "__next__").isSome

def iteratorOf (ev : Evaluator) (v : Value) : Run Value := do
  match ← special? v "__iter__" with
  | some .none => notIterable v
  | some f =>
    let it ← ev.call (← bind ev v (← classOf v) f) [] []
    if ← isIterator it then return it
    else typeError ("iter() returned non-iterator of type '" ++ (← typeName it) ++ "'")
  | none =>
    match ← builtinIterator? (← content v) with
    | some it => return it
    | none =>
      match ← special? v "__getitem__" with
      | some _ => new (.iterator (.indexed v 0))
      | none => notIterable v

def setIterator (r : Ref) (it : Iterator) : Run Unit := setObject r (.iterator it)

/-- The first item of a source that passes a test, among at most `rounds`. -/
def firstPassing (next : Run (Option Value)) (test : Value → Run Bool) :
    (rounds : Nat) → Run (Option Value)
  | 0 => throw .exhausted
  | rounds + 1 => do
    match ← next with
    | none => return none
    | some v => if ← test v then return some v else firstPassing next test rounds

/-- The next item of each source, if all have one. -/
def nextOfAll (next : Value → Run (Option Value)) : List Value → Run (Option (List Value))
  | [] => return some []
  | it :: its => do
    match ← next it with
    | none => return none
    | some v =>
      match ← nextOfAll next its with
      | none => return none
      | some vs => return some (v :: vs)

/-- The next item of an iterator, where `next` gives those of the iterators it draws from. -/
def advance (ev : Evaluator) (next : Value → Run (Option Value)) (r : Ref) (it : Iterator) :
    Run (Option Value) := do
  match it with
  | .done _ | .finished _ => return none
  | .generated _ => ev.resume r
  | .running _ => valueError "generator already executing"
  | .values _ [] => return none
  | .values name (v :: vs) =>
    setIterator r (.values name vs)
    return some v
  | .list l i =>
    match ← object l with
    | .list items =>
      match items[i]? with
      | some v =>
        setIterator r (.list l (i + 1))
        return some v
      | none =>
        setIterator r (.done it.className)
        return none
    | _ => return none
  | .entries kind d place size left =>
    let es ← entries d
    if size ≠ some es.size then
      setIterator r (.entries kind d place none left)
      fail .runtimeError "dictionary changed size during iteration"
    match es.firstFrom place, left with
    | some i, left + 1 =>
      setIterator r (.entries kind d (i + 1) size left)
      return (es.get? i).map fun e => viewItem kind (e.key, e.value)
    | some _, 0 =>
      setIterator r (.done it.className)
      fail .runtimeError "dictionary keys changed during iteration"
    | none, _ =>
      setIterator r (.done it.className)
      return none
  | .members vs s size =>
    match ← object s with
    | .set members _ =>
      if members.size ≠ size then fail .runtimeError "Set changed size during iteration"
    | _ => pure ()
    match vs with
    | [] => return none
    | v :: vs =>
      setIterator r (.members vs s size)
      return some v
  | .range a b c =>
    if (0 < c && a < b) || (c < 0 && b < a) then
      setIterator r (.range (a + c) b c)
      return some (← identified (.int a))
    else return none
  | .counted n src =>
    match ← next src with
    | some v =>
      setIterator r (.counted (n + 1) src)
      return some (.tuple [.int n, v])
    | none => return none
  | .zipped [] => return none
  | .zipped its => return (← nextOfAll next its).map .tuple
  | .mapped f its =>
    match ← nextOfAll next its with
    | some vs => return some (← ev.call f vs [])
    | none => return none
  | .filtered f src =>
    let test (v : Value) : Run Bool := do
      match f with
      | .none => truth ev v
      | f => truth ev (← ev.call f [v] [])
    firstPassing (next src) test ev.rounds
  | .called f sentinel =>
    let v ← ev.call f [] []
    if ← ev.equal v sentinel then
      setIterator r (.done it.className)
      return none
    else return some v
  | .indexed v i =>
    match ← special? v "__getitem__" with
    | none => return none
    | some f =>
      let item : Run (Option Value) := do
        return some (← ev.call (← bind ev v (← classOf v) f) [.int i] [])
      match ← rescue .indexError item fun _ => return none with
      | some w =>
        setIterator r (.indexed v (i + 1))
        return some w
      | none =>
        setIterator r (.done it.className)
        return none

/-- The next item, where iterators may draw from each other to a depth. -/
def nextAt (ev : Evaluator) : (depth : Nat) → Value → Run (Option Value)
  | 0, _ => fail .recursionError "maximum recursion depth exceeded"
  | depth + 1, v => do
    match v with
    | .ref r =>
      match ← object r with
      | .iterator it => advance ev (nextAt ev depth) r it
      | .file name (l :: ls) closed =>
        setObject r (.file name ls closed)
        return some (.str l)
      | .file .. => return none
      | _ =>
        match ← special? v "__next__" with
        | some f =>
          let item : Run (Option Value) := do
            return some (← ev.call (← bind ev v (← classOf v) f) [] [])
          rescue .stopIteration item fun _ => return none
        | none => typeError ("'" ++ (← typeName v) ++ "' object is not an iterator")
    | _ => typeError ("'" ++ (← typeName v) ++ "' object is not an iterator")

def next? (ev : Evaluator) (it : Value) : Run (Option Value) := nextAt ev depthLimit it

/-- The items that an iterator has left, behind those that were taken already. -/
def drain (next : Run (Option Value)) : (rounds : Nat) → Array Value → Run (List Value)
  | 0, _ => throw .exhausted
  | rounds + 1, taken => do
    match ← next with
    | none => return taken.toList
    | some v => drain next rounds (taken.push v)

/-- The items of a value. -/
def itemsOf (ev : Evaluator) (v : Value) : Run (List Value) := do
  match v with
  | .tuple vs _ => return vs
  | .str p _ => return characters p
  | _ =>
    match ← objectOf v with
    | .list items => return items.toList
    | .dict es => return viewItems .keys es
    | .set members _ => return members.toList
    | .view kind d => return viewItems kind (← entries d)
    | _ =>
      let it ← iteratorOf ev v
      drain (next? ev it) ev.rounds #[]

/-- Whether a value contains an item. -/
def contains (ev : Evaluator) (v item : Value) : Run Bool := do
  match ← callSpecial? ev v "__contains__" [item] with
  | some w => truth ev w
  | none =>
    match ← content v with
    | .str p _ =>
      match ← content item with
      | .str q _ => return hasInfix q p
      | _ =>
        typeError ("'in <string>' requires string as left operand, not " ++ (← typeName item))
    | .bytes bs _ =>
      match item with
      | .bytes q _ => return hasInfix q bs
      | .int n _ => return bs.any fun b => (b : Int) = n
      | _ => typeError ("a bytes-like object is required, not '" ++ (← typeName item) ++ "'")
    | .range a b c =>
      match number? item with
      | some (.int n) =>
        return if 0 < c then a ≤ n && n < b && (n - a) % c = 0
          else if c < 0 then b < n && n ≤ a && (a - n) % (-c) = 0 else false
      | _ => (← itemsOf ev v).anyM fun w => ev.equal w item
    | .tuple vs _ => vs.anyM fun w => ev.equal w item
    | w =>
      match ← objectOf w with
      | .list items => items.anyM fun u => ev.equal u item
      | .dict es => return (← findKey ev es item).isSome
      | .set members _ => memberOf ev members item
      | .view .keys d => return (← findKey ev (← entries d) item).isSome
      | _ =>
        let known : Bool := (← builtinIterator? w).isSome || (← special? v "__iter__").isSome ||
          (← special? v "__getitem__").isSome
        if known then (← itemsOf ev v).anyM fun u => ev.equal u item
        else typeError ("argument of type '" ++ (← typeName v) ++ "' is not iterable")
where
  hasInfix (q : List Nat) : List Nat → Bool
    | [] => q.isEmpty
    | n :: p => q.isPrefixOf (n :: p) || hasInfix q p

end ThaiScript.Machine
