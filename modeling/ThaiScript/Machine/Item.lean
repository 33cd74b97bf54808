import ThaiScript.Machine.Iterate

/-!
# Items

Items of sequences are counted from the front or, with negative numbers, from the end. A slice takes
the items between two places, with a step.
-/

namespace ThaiScript.Machine

open Run

/-- The place that an index names among `n`. -/
def place? (n : Nat) (i : Int) : Option Nat :=
  let j := if i < 0 then i + n else i
  if 0 ≤ j ∧ j < n then some j.toNat else none

/-- A slice of `n` items: the first place, the bound and the step. -/
structure Slice where
  start : Int
  stop : Int
  step : Int
deriving DecidableEq, Repr

/-- A bound of a slice, brought between `low` and `high`. -/
def clampBound (n : Nat) (low high i : Int) : Int :=
  let j := if i < 0 then i + n else i
  if j < low then low else if high < j then high else j

def sliceBound? (ev : Evaluator) (v : Value) : Run (Option Int) := do
  match v with
  | .none => return none
  | v =>
    match ← index? ev v with
    | some n => return some n
    | none => typeError "slice indices must be integers or None or have an __index__ method"

def sliceOf (ev : Evaluator) (n : Nat) (start stop step : Value) : Run Slice := do
  let step := (← sliceBound? ev step).getD 1
  if step = 0 then valueError "slice step cannot be zero"
  let start ← sliceBound? ev start
  let stop ← sliceBound? ev stop
  if 0 < step then
    return ⟨(start.map (clampBound n 0 n)).getD 0, (stop.map (clampBound n 0 n)).getD n, step⟩
  else
    let last : Int := n - 1
    return ⟨(start.map (clampBound n (-1) last)).getD last,
      (stop.map (clampBound n (-1) last)).getD (-1), step⟩

/-- The places that a slice takes. -/
def Slice.places (s : Slice) : List Nat :=
  (List.range (rangeLength s.start s.stop s.step)).map fun i : Nat => (s.start + i * s.step).toNat

def Slice.take {α : Type} (s : Slice) (xs : Array α) : List α := s.places.filterMap fun i => xs[i]?

/-- The number that an index is, where it has to fit a machine word. -/
def itemIndex (ev : Evaluator) (i : Value) (complaint : Text) : Run Int := do
  match ← index? ev i with
  | some n =>
    if n < -(2 ^ 63) ∨ 2 ^ 63 ≤ n then
      fail .indexError ("cannot fit '" ++ (← typeName i) ++ "' into an index-sized integer")
    else return n
  | none => typeError complaint

def badIndex (what : Text) (i : Value) : Run Text := do
  return what ++ " indices must be integers or slices, not " ++ (← typeName i)

/-- An item of a value of a builtin class, if it has items. -/
def builtinItem? (ev : Evaluator) (v i : Value) : Run (Option Value) := do
  match v with
  | .str p _ =>
    match i with
    | .slice a b c => return some (.str ((← sliceOf ev p.length a b c).take p.toArray))
    | _ =>
      let n ← itemIndex ev i ("string indices must be integers, not '" ++ (← typeName i) ++ "'")
      match (place? p.length n).bind (p[·]?) with
      | some c => return some (.str [c])
      | none => fail .indexError "string index out of range"
  | .bytes bs _ =>
    match i with
    | .slice a b c => return some (.bytes ((← sliceOf ev bs.length a b c).take bs.toArray))
    | _ =>
      let n ← itemIndex ev i (← badIndex "byte" i)
      match (place? bs.length n).bind (bs[·]?) with
      | some b => return some (.int b)
      | none => fail .indexError "index out of range"
  | .tuple vs _ =>
    match i with
    | .slice a b c => return some (.tuple ((← sliceOf ev vs.length a b c).take vs.toArray))
    | _ =>
      let n ← itemIndex ev i (← badIndex "tuple" i)
      match (place? vs.length n).bind (vs[·]?) with
      | some w => return some w
      | none => fail .indexError "tuple index out of range"
  | .range a b c =>
    let size := rangeLength a b c
    match i with
    | .slice x y z =>
      let s ← sliceOf ev size x y z
      return some (.range (a + s.start * c) (a + s.stop * c) (c * s.step))
    | _ =>
      match ← index? ev i with
      | some n =>
        match place? size n with
        | some k => return some (.int (a + k * c))
        | none => fail .indexError "range object index out of range"
      | none => typeError (← badIndex "range" i)
  | .ref r =>
    match ← object r with
    | .list items =>
      match i with
      | .slice a b c => return some (← newList ((← sliceOf ev items.size a b c).take items))
      | _ =>
        let n ← itemIndex ev i (← badIndex "list" i)
        match (place? items.size n).bind (items[·]?) with
        | some w => return some w
        | none => fail .indexError "list index out of range"
    | .dict es =>
      match ← lookup? ev es i with
      | some w => return some w
      | none => failWith .keyError [i]
    | _ => return none
  | _ => return none

/-- Whether the part of a value that stands at an index is all of it. -/
def isWhole (v i part : Value) : Bool :=
  let forward : Bool := match i with
    | .slice _ _ .none => true
    | .slice _ _ (.int n _) => n = 1
    | .slice _ _ (.bool b) => b
    | .slice .. => false
    | _ => true
  match v, part with
  | .str p _, .str q _ => forward && p.length = q.length
  | .bytes p _, .bytes q _ => forward && p.length = q.length
  | .tuple vs _, .tuple ws _ => forward && vs.length = ws.length
  | _, _ => false

/-- The item or slice that stands at an index. A slice of everything is the value itself. -/
def getItem (ev : Evaluator) (v i : Value) : Run Value := do
  match ← callSpecial? ev v "__getitem__" [i] with
  | some w => return w
  | none =>
    let inside ← content v
    let missing? ← match ← objectOf inside with
      | .dict es => do
        match ← special? v "__missing__" with
        | some _ => pure ((← findKey ev es i).isNone)
        | none => pure false
      | _ => pure false
    if missing? then
      match ← callSpecial? ev v "__missing__" [i] with
      | some w => return w
      | none => failWith .keyError [i]
    else
      match ← builtinItem? ev inside i with
      | some w =>
        match inside, i with
        | .tuple .., .slice .. | .str .., _ | .bytes .., _ | .range .., _ =>
          if isWhole inside i w then return inside else identified w
        | _, _ => return w
      | none =>
        match v with
        | .cls c => typeError ("type '" ++ (← className c) ++ "' is not subscriptable")
        | _ => typeError ("'" ++ (← typeName v) ++ "' object is not subscriptable")

/-- Puts items in the place of those that a slice takes. -/
def assignSlice (items : Array Value) (s : Slice) (vs : List Value) : Run (Array Value) := do
  if s.step = 1 then
    let start := s.start.toNat
    let stop := max start s.stop.toNat
    return items.extract 0 start ++ vs.toArray ++ items.extract stop items.size
  else
    let places := s.places
    if places.length ≠ vs.length then
      valueError ("attempt to assign sequence of size " ++ Text.ofNat vs.length ++
        " to extended slice of size " ++ Text.ofNat places.length)
    return (places.zip vs).foldl (fun items (i, v) => items.setIfInBounds i v) items

def setItem (ev : Evaluator) (v i w : Value) : Run Unit := do
  match ← callSpecial? ev v "__setitem__" [i, w] with
  | some _ => return
  | none =>
    match ← content v with
    | .ref r =>
      match ← object r with
      | .list items =>
        match i with
        | .slice a b c =>
          let s ← sliceOf ev items.size a b c
          let vs ← match ← builtinIterator? w, ← special? w "__iter__" with
            | none, none => typeError "can only assign an iterable"
            | _, _ => itemsOf ev w
          setObject r (.list (← assignSlice items s vs))
        | _ =>
          let n ← itemIndex ev i (← badIndex "list" i)
          match place? items.size n with
          | some k => modifyObject r fun o =>
              match o with
              | .list items => .list (items.setIfInBounds k w)
              | o => o
          | none => fail .indexError "list assignment index out of range"
      | .dict _ => putEntry ev r i w
      | _ => unassignable
    | _ => unassignable
where
  unassignable : Run Unit := do
    typeError ("'" ++ (← typeName v) ++ "' object does not support item assignment")

def deleteItem (ev : Evaluator) (v i : Value) : Run Unit := do
  match ← callSpecial? ev v "__delitem__" [i] with
  | some _ => return
  | none =>
    match ← content v with
    | .ref r =>
      match ← object r with
      | .list items =>
        match i with
        | .slice a b c =>
          let places := (← sliceOf ev items.size a b c).places
          let kept := (List.range items.size).filterMap fun k => if k ∈ places then none else items[k]?
          setObject r (.list kept.toArray)
        | _ =>
          let n ← itemIndex ev i (← badIndex "list" i)
          match place? items.size n with
          | some k => setObject r (.list (items.eraseIdxIfInBounds k))
          | none => fail .indexError "list assignment index out of range"
      | .dict es =>
        match ← findKey ev es i with
        | some k => modifyEntries r (·.eraseAt k)
        | none => failWith .keyError [i]
      | _ => undeletable
    | _ => undeletable
where
  undeletable : Run Unit := do
    typeError ("'" ++ (← typeName v) ++ "' object doesn't support item deletion")

end ThaiScript.Machine
