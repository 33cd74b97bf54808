import ThaiScript.Machine.Arguments
import ThaiScript.Machine.Sort

/-!
# Methods of lists, tuples, dictionaries, sets and ranges

A method answers with a value or changes the object that it is called on.
-/

namespace ThaiScript.Machine

open Program Run

/-! ### Arguments of sorting -/

def sortArguments (ev : Evaluator) (name : Text) (keywords : Keywords) : Run (Value × Bool) := do
  requireKeywords name ["key", "reverse"] keywords
  let reverse ← match keywords.find? "reverse" with
    | some v => truth ev v
    | none => pure false
  return ((keywords.find? "key").getD .none, reverse)

/-! ### Sequences -/

/-- The place of the first equal item between two places. -/
def positionOf (ev : Evaluator) (v : Value) (start stop : Nat) : (i : Nat) → List Value →
    Run (Option Nat)
  | _, [] => return none
  | i, w :: ws => do
    if start ≤ i && i < stop then
      if ← ev.equal w v then return some i
    positionOf ev v start stop (i + 1) ws

def countEqual (ev : Evaluator) (v : Value) (vs : List Value) : Run Value := do
  return .int (← vs.filterM fun w => ev.equal w v).length

def indexOf (ev : Evaluator) (kind : Text) (vs : List Value) (args : List Value) : Run Value := do
  let v := args.headD .none
  let (start, stop) ← searchBounds ev vs.length (args.drop 1)
  match ← positionOf ev v start stop 0 vs with
  | some i => return .int i
  | none =>
    if kind = "list".toList then valueError ((← ev.repr v).lossy ++ " is not in list")
    else valueError (kind ++ ".index(x): x not in " ++ kind)

def listItems (r : Ref) : Run (Array Value) := do
  match ← object r with
  | .list items => return items
  | _ => return #[]

def modifyList (r : Ref) (f : Array Value → Array Value) : Run Unit :=
  modifyObject r fun o =>
    match o with
    | .list items => .list (f items)
    | o => o

def listMethod (ev : Evaluator) (name : String) (r : Ref) (args : List Value) (keywords : Keywords) :
    Run Value := do
  let path : Text := "list." ++ name
  let plain (least most : Nat) : Run Unit := requireArguments path least most args keywords
  let arg (i : Nat) : Value := args.getD i .none
  let items ← listItems r
  let self := Value.ref r
  match name with
  | "append" =>
    plain 1 1
    modifyList r (·.push (arg 0))
    return .none
  | "extend" =>
    plain 1 1
    let more ← itemsOf ev (arg 0)
    modifyList r (· ++ more.toArray)
    return .none
  | "insert" =>
    requireArguments "insert" 2 2 args keywords
    let i := (clampBound items.size 0 items.size (← index ev (arg 0))).toNat
    setObject r (.list (items.extract 0 i ++ #[arg 1] ++ items.extract i items.size))
    return .none
  | "remove" =>
    plain 1 1
    match ← positionOf ev (arg 0) 0 items.size 0 items.toList with
    | some i =>
      modifyList r (·.eraseIdxIfInBounds i)
      return .none
    | none => valueError "list.remove(x): x not in list"
  | "pop" =>
    requireArguments "pop" 0 1 args keywords
    let i ← match args with
      | [] => pure (-1)
      | v :: _ => index ev v
    if items.isEmpty then fail .indexError "pop from empty list"
    match (place? items.size i).bind fun k => (items[k]?).map fun v => (k, v) with
    | some (k, v) =>
      modifyList r (·.eraseIdxIfInBounds k)
      return v
    | none => fail .indexError "pop index out of range"
  | "clear" => plain 0 0; setObject r (.list #[]); return .none
  | "copy" => plain 0 0; new (.list items)
  | "reverse" => plain 0 0; setObject r (.list items.reverse); return .none
  | "index" => requireArguments "index" 1 3 args keywords; indexOf ev "list" items.toList args
  | "count" => plain 1 1; countEqual ev (arg 0) items.toList
  | "sort" =>
    if !args.isEmpty then typeError "sort() takes no positional arguments"
    let (key, reverse) ← sortArguments ev "sort" keywords
    let vs ← sortValues ev items.toList key reverse
    setObject r (.list vs.toArray)
    return .none
  | "__len__" => plain 0 0; return .int items.size
  | "__getitem__" => plain 1 1; getItem ev self (arg 0)
  | "__setitem__" =>
    requireArguments path 2 2 args keywords
    setItem ev self (arg 0) (arg 1)
    return .none
  | "__delitem__" => plain 1 1; deleteItem ev self (arg 0); return .none
  | "__contains__" => plain 1 1; return .bool (← contains ev self (arg 0))
  | "__iter__" => plain 0 0; iteratorOf ev self
  | "__reversed__" => plain 0 0; new (.iterator (.values "list_reverseiterator" items.toList.reverse))
  | "__add__" => plain 1 1; binaryWith ev (formatPercent ev) "+" .add self (arg 0)
  | "__mul__" => plain 1 1; binaryWith ev (formatPercent ev) "*" .mul self (arg 0)
  | _ => fail .notImplementedError path

def tupleMethod (ev : Evaluator) (name : String) (vs : List Value) (args : List Value)
    (keywords : Keywords) : Run Value := do
  let path : Text := "tuple." ++ name
  let plain (least most : Nat) : Run Unit := requireArguments path least most args keywords
  let arg (i : Nat) : Value := args.getD i .none
  let self := Value.tuple vs
  match name with
  | "index" => requireArguments "index" 1 3 args keywords; indexOf ev "tuple" vs args
  | "count" => plain 1 1; countEqual ev (arg 0) vs
  | "__len__" => plain 0 0; return .int vs.length
  | "__getitem__" => plain 1 1; getItem ev self (arg 0)
  | "__contains__" => plain 1 1; return .bool (← contains ev self (arg 0))
  | "__iter__" => plain 0 0; iteratorOf ev self
  | "__add__" => plain 1 1; binaryWith ev (formatPercent ev) "+" .add self (arg 0)
  | "__mul__" => plain 1 1; binaryWith ev (formatPercent ev) "*" .mul self (arg 0)
  | _ => fail .notImplementedError path

def rangeMethod (ev : Evaluator) (name : String) (self : Value) (args : List Value)
    (keywords : Keywords) : Run Value := do
  let path : Text := "range." ++ name
  let plain (least most : Nat) : Run Unit := requireArguments path least most args keywords
  let arg (i : Nat) : Value := args.getD i .none
  match name with
  | "index" =>
    plain 1 1
    match ← positionOf ev (arg 0) 0 (← length ev self) 0 (← itemsOf ev self) with
    | some i => return .int i
    | none => valueError ((← ev.repr (arg 0)).lossy ++ " is not in range")
  | "count" => plain 1 1; countEqual ev (arg 0) (← itemsOf ev self)
  | "__len__" => plain 0 0; return .int (← length ev self)
  | "__getitem__" => plain 1 1; getItem ev self (arg 0)
  | "__contains__" => plain 1 1; return .bool (← contains ev self (arg 0))
  | "__iter__" => plain 0 0; iteratorOf ev self
  | _ => fail .notImplementedError path

/-! ### Dictionaries -/

/-- A pair of items as an entry. -/
def entryOf (ev : Evaluator) (i : Nat) (v : Value) : Run (Value × Value) := do
  let pair ← rescue .typeError (itemsOf ev v) fun _ =>
    typeError ("cannot convert dictionary update sequence element #" ++ Text.ofNat i ++
      " to a sequence")
  match pair with
  | [k, w] => return (k, w)
  | vs =>
    valueError ("dictionary update sequence element #" ++ Text.ofNat i ++ " has length " ++
      Text.ofNat vs.length ++ "; 2 is required")

/-- The entries that a mapping, or a list of pairs, gives. -/
def entriesFrom (ev : Evaluator) (v : Value) : Run (List (Value × Value)) := do
  match ← objectOf (← content v) with
  | .dict es => return es.toList
  | _ =>
    match ← attribute? ev v "keys" with
    | some keys =>
      let ks ← itemsOf ev (← ev.call keys [] [])
      ks.mapM fun k => do return (k, ← getItem ev v k)
    | none => (← itemsOf ev v).zipIdx.mapM fun (w, i) => entryOf ev i w

/-- Puts the entries that arguments give into a dictionary. -/
def updateDict (ev : Evaluator) (r : Ref) (args : List Value) (keywords : Keywords) : Run Unit := do
  match args with
  | v :: _ => putEntries ev r (← entriesFrom ev v)
  | [] => pure ()
  for (k, w) in keywords do putEntry ev r (.ofText k) w

def dictMethod (ev : Evaluator) (name : String) (r : Ref) (args : List Value) (keywords : Keywords) :
    Run Value := do
  let path : Text := "dict." ++ name
  let plain (least most : Nat) : Run Unit := requireArguments path least most args keywords
  let arg (i : Nat) : Value := args.getD i .none
  let es ← entries r
  let self := Value.ref r
  match name with
  | "get" =>
    requireArguments "get" 1 2 args keywords
    return (← lookup? ev es (arg 0)).getD (arg 1)
  | "keys" => plain 0 0; new (.view .keys r)
  | "values" => plain 0 0; new (.view .values r)
  | "items" => plain 0 0; new (.view .items r)
  | "pop" =>
    requireArguments "pop" 1 2 args keywords
    match ← findKey ev es (arg 0) with
    | some i =>
      let v := ((es.get? i).map (·.value)).getD .none
      modifyEntries r (·.eraseAt i)
      return v
    | none =>
      match args with
      | [_, v] => return v
      | _ => failWith .keyError [arg 0]
  | "popitem" =>
    plain 0 0
    match es.lastPlace?.bind es.get? with
    | some e =>
      modifyEntries r (·.pop)
      return .tuple [e.key, e.value]
    | none => failWith .keyError [.ofString "popitem(): dictionary is empty"]
  | "setdefault" =>
    requireArguments "setdefault" 1 2 args keywords
    let h ← wordOf ev (arg 0)
    match ← findHashed ev es h (arg 0) with
    | some i => return ((es.get? i).map (·.value)).getD .none
    | none =>
      modifyEntries r (·.push ⟨h, arg 0, arg 1⟩)
      return arg 1
  | "update" =>
    requireCount "update" 0 1 args
    updateDict ev r args keywords
    return .none
  | "clear" => plain 0 0; setObject r (.dict .empty); return .none
  | "copy" => plain 0 0; newDict es
  | "fromkeys" =>
    requireArguments "fromkeys" 1 2 args keywords
    let es ← (← itemsOf ev (arg 0)).foldlM (fun es k => insertEntry ev es k (arg 1)) .empty
    newDict es
  | "__len__" => plain 0 0; return .int es.size
  | "__getitem__" => plain 1 1; getItem ev self (arg 0)
  | "__setitem__" =>
    requireArguments path 2 2 args keywords
    putEntry ev r (arg 0) (arg 1)
    return .none
  | "__delitem__" => plain 1 1; deleteItem ev self (arg 0); return .none
  | "__contains__" => plain 1 1; return .bool (← findKey ev es (arg 0)).isSome
  | "__iter__" => plain 0 0; iteratorOf ev self
  | "__or__" => plain 1 1; binaryWith ev (formatPercent ev) "|" .bitOr self (arg 0)
  | _ => fail .notImplementedError path

def viewMethod (ev : Evaluator) (name : String) (self : Value) (args : List Value)
    (keywords : Keywords) : Run Value := do
  let plain (least most : Nat) : Run Unit := requireArguments name least most args keywords
  match name with
  | "__len__" => plain 0 0; return .int (← length ev self)
  | "__contains__" => plain 1 1; return .bool (← contains ev self (args.headD .none))
  | "__iter__" => plain 0 0; iteratorOf ev self
  | "isdisjoint" =>
    plain 1 1
    let xs ← itemsOf ev self
    return .bool !(← (← itemsOf ev (args.headD .none)).anyM fun v => xs.anyM fun x => ev.equal x v)
  | _ => fail .notImplementedError name

/-! ### Sets -/

def setMembers (r : Ref) : Run (HashTable Value × Bool) := do
  match ← object r with
  | .set members frozen => return (members, frozen)
  | _ => return (.empty, false)

/-- The set that a value is, or that its items make. -/
def setFrom (ev : Evaluator) (v : Value) : Run (HashTable Value) := do
  match ← objectOf v with
  | .set members _ => return members
  | .dict es => mergeKeys ev .empty es.keys
  | _ => setOf ev (← itemsOf ev v)

/-- Puts the items of a value into a set. -/
def mergeItems (ev : Evaluator) (t : HashTable Value) (v : Value) : Run (HashTable Value) := do
  match ← objectOf v with
  | .set members _ => mergeSets ev t members
  | .dict es => mergeKeys ev t es.keys
  | _ => (← itemsOf ev v).foldlM (insertMember ev) t

/-- The members of a set that are among the items of a value. -/
def intersected (ev : Evaluator) (t : HashTable Value) (v : Value) : Run (HashTable Value) := do
  match ← objectOf v with
  | .set members _ => commonMembers ev t members
  | _ =>
    (← itemsOf ev v).foldlM (fun u w => do
      let h ← wordOf ev w
      match ← placeIn ev t h w with
      | some _ => insertHashed ev u h w
      | none => return u) .empty

/-- Takes the items of a value out of a set. -/
def subtracted (ev : Evaluator) (t : HashTable Value) (v : Value) : Run (HashTable Value) := do
  match ← objectOf v with
  | .set members _ => withoutSet ev t members
  | _ => withoutHashed ev t (← (← itemsOf ev v).mapM fun w => do return (← wordOf ev w, w))

/-- The members of a set that are not among the items of a value. -/
def differenceFrom (ev : Evaluator) (t : HashTable Value) (v : Value) : Run (HashTable Value) := do
  match ← objectOf v with
  | .set members _ => difference ev t members
  | .dict es =>
    if es.size < t.size / 4 then subtracted ev (← mergeSets ev .empty t) v
    else filterSet ev t fun _ w => return (← findKey ev es w).isNone
  | _ => subtracted ev (← mergeSets ev .empty t) v

def setMethod (ev : Evaluator) (name : String) (r : Ref) (args : List Value) (keywords : Keywords) :
    Run Value := do
  let (members, frozen) ← setMembers r
  let path : Text := (if frozen then "frozenset." else "set.") ++ name
  let plain (least most : Nat) : Run Unit := requireArguments path least most args keywords
  let arg : Value := args.headD .none
  let self := Value.ref r
  let become (t : HashTable Value) : Run Value := do
    setObject r (.set t frozen)
    return .none
  let fresh (t : HashTable Value) : Run Value := new (.set t frozen)
  let copy : Run (HashTable Value) := mergeSets ev .empty members
  match name with
  | "add" => plain 1 1; become (← insertMember ev members arg)
  | "remove" | "discard" =>
    plain 1 1
    match ← eraseHashed? ev members (← wordOf ev arg) arg with
    | some t => become t
    | none => if name = "remove" then failWith .keyError [arg] else return .none
  | "pop" =>
    plain 0 0
    match members.pop? with
    | some (v, t) =>
      setObject r (.set t frozen)
      return v
    | none => failWith .keyError [.ofString "pop from an empty set"]
  | "clear" => plain 0 0; become .empty
  | "copy" => plain 0 0; fresh (← copy)
  | "union" => fresh (← args.foldlM (mergeItems ev) (← copy))
  | "update" => become (← args.foldlM (mergeItems ev) members)
  | "intersection" =>
    if args.isEmpty then fresh (← copy) else fresh (← args.foldlM (intersected ev) members)
  | "intersection_update" => become (← args.foldlM (intersected ev) members)
  | "difference" =>
    match args with
    | [] => fresh (← copy)
    | v :: vs => fresh (← vs.foldlM (subtracted ev) (← differenceFrom ev members v))
  | "difference_update" => become (← args.foldlM (subtracted ev) members)
  | "symmetric_difference" =>
    plain 1 1
    fresh (← symmetricUpdate ev (← mergeItems ev .empty arg) members)
  | "symmetric_difference_update" =>
    plain 1 1
    become (← symmetricUpdate ev members (← setFrom ev arg))
  | "issubset" => plain 1 1; return .bool (← isWithin ev members (← setFrom ev arg))
  | "issuperset" => plain 1 1; return .bool (← isWithin ev (← setFrom ev arg) members)
  | "isdisjoint" =>
    plain 1 1
    return .bool !(← (← itemsOf ev arg).anyM fun v => memberOf ev members v)
  | "__len__" => plain 0 0; return .int members.size
  | "__contains__" => plain 1 1; return .bool (← memberOf ev members arg)
  | "__iter__" => plain 0 0; iteratorOf ev self
  | "__or__" => plain 1 1; binaryWith ev (formatPercent ev) "|" .bitOr self arg
  | "__and__" => plain 1 1; binaryWith ev (formatPercent ev) "&" .bitAnd self arg
  | "__sub__" => plain 1 1; binaryWith ev (formatPercent ev) "-" .sub self arg
  | "__xor__" => plain 1 1; binaryWith ev (formatPercent ev) "^" .bitXor self arg
  | _ => fail .notImplementedError path

end ThaiScript.Machine
