import ThaiScript.Machine.Show

/-!
# Truth, equality and order

Numbers compare by their values whatever their kinds; texts, tuples and lists compare item by item.
What a class of the program defines goes before all else.
-/

namespace ThaiScript.Machine

open Program Run

/-- Calls a special method of a class of the program, if there is one. -/
def callSpecial? (ev : Evaluator) (v : Value) (name : Text) (args : List Value) :
    Run (Option Value) := do
  match ← special? v name with
  | some f => return some (← ev.call (← bind ev v (← classOf v) f) args [])
  | none => return none

/-- The integer that a value stands for where only integers are allowed. -/
def index? (ev : Evaluator) (v : Value) : Run (Option Int) := do
  match ← content v with
  | .int n _ => return some n
  | .bool b => return some (if b then 1 else 0)
  | _ =>
    match ← callSpecial? ev v "__index__" [] with
    | some (.int n _) => return some n
    | some (.bool b) => return some (if b then 1 else 0)
    | some w => typeError ("__index__ returned non-int (type " ++ (← typeName w) ++ ")")
    | none => return none

def index (ev : Evaluator) (v : Value) : Run Int := do
  match ← index? ev v with
  | some n => return n
  | none => typeError ("'" ++ (← typeName v) ++ "' object cannot be interpreted as an integer")

def rangeLength (start stop step : Int) : Nat :=
  if 0 < step then ((stop - start + step - 1) / step).toNat
  else if step < 0 then ((start - stop - step - 1) / (-step)).toNat
  else 0

/-- The number of items of a value of a builtin class. -/
def size? (v : Value) : Run (Option Nat) := do
  match v with
  | .str p _ => return some p.length
  | .bytes bs _ => return some bs.length
  | .tuple vs _ => return some vs.length
  | .range a b c => return some (rangeLength a b c)
  | .ref r =>
    match ← object r with
    | .list items => return some items.size
    | .dict es => return some es.size
    | .set members _ => return some members.size
    | .view _ d => return some (← entries d).size
    | _ => return none
  | _ => return none

/-- The number of items as an instance of a class of the program tells it. -/
def definedLength? (ev : Evaluator) (v : Value) : Run (Option Nat) := do
  match ← callSpecial? ev v "__len__" [] with
  | some w =>
    let n ← index ev w
    if n < 0 then valueError "__len__() should return >= 0"
    return some n.toNat
  | none => return none

def length (ev : Evaluator) (v : Value) : Run Nat := do
  match ← definedLength? ev v with
  | some n => return n
  | none =>
    match ← size? (← content v) with
    | some n =>
      if 2 ^ 63 ≤ n then fail .overflowError "Python int too large to convert to C ssize_t"
      return n
    | none => typeError ("object of type '" ++ (← typeName v) ++ "' has no len()")

def truth (ev : Evaluator) (v : Value) : Run Bool := do
  match v with
  | .none => return false
  | .bool b => return b
  | .int n _ => return n ≠ 0
  | .float x _ => return !(x == 0)
  | _ =>
    match ← callSpecial? ev v "__bool__" [] with
    | some (.bool b) => return b
    | some w => typeError ("__bool__ should return bool, returned " ++ (← typeName w))
    | none =>
      match ← definedLength? ev v with
      | some n => return n ≠ 0
      | none =>
        match ← content v with
        | .none => return (← content? v).isNone
        | .int n _ => return n ≠ 0
        | .float x _ => return !(x == 0)
        | .complex z _ => return !z.isZero
        | w =>
          match ← size? w with
          | some n => return n ≠ 0
          | none => return true

def number? : Value → Option Number
  | .bool b => some (.int (if b then 1 else 0))
  | .int n _ => some (.int n)
  | .float x _ => some (.float x)
  | .complex z _ => some (.complex z)
  | _ => none

/-! ### Keys -/

/-- Whether two keys are equal, as far as this can be told without running a program. -/
def simpleEqual? (a b : Value) : Option Bool :=
  match number? a, number? b with
  | some x, some y => some (x.equals y || a.same b)
  | _, _ =>
    match a, b with
    | .str p _, .str q _ => some (p == q)
    | .bytes p _, .bytes q _ => some (p == q)
    | .tuple .., .tuple .. | .slice .., .slice .. | .range .., .range .. => none
    | .ref _, _ => if a.same b then some true else none
    | _, .ref _ => none
    | _, _ => some (a.same b)

def equalKeys (ev : Evaluator) (a b : Value) : Run Bool :=
  match simpleEqual? a b with
  | some r => return r
  | none => ev.equal a b

def unhashable {α : Type} (v : Value) : Run α := do
  typeError ("unhashable type: '" ++ (← typeName v) ++ "'")

/-- The hash of a value that is told by where it stands. -/
def placeHash (n : Nat) : Int := 0x7F0000000 + 4 * n

def identityHash : Identity → Int
  | .own n => placeHash n
  | _ => placeHash 0

/-- What a class of the program answers when it is asked for a hash. -/
def definedHash? (ev : Evaluator) (v : Value) : Run (Option Int) := do
  match ← special? v "__hash__" with
  | none => return none
  | some .none => unhashable v
  | some f =>
    match ← ev.call (← bind ev v (← classOf v) f) [] [] with
    | .int n _ => return some (if -(2 ^ 63) ≤ n ∧ n < 2 ^ 63 then avoidMinusOne n else intHash n)
    | .bool b => return some (if b then 1 else 0)
    | _ => typeError "__hash__ method should return an integer"

/-- The hash of a value, if it has one. Tuples are looked into to a depth. -/
def hashOf (ev : Evaluator) : (depth : Nat) → Value → Run Int
  | 0, _ => return 0
  | depth + 1, v => do
    match v with
    | .bool b => return if b then 1 else 0
    | .int n _ => return intHash n
    | .float x id => return (floatHash? x).getD (identityHash id)
    | .complex z id => return (numberHash? (.complex z)).getD (identityHash id)
    | .str p _ => return hashOfPoints p
    | .bytes bs _ => return hashOfPoints bs
    | .tuple vs _ => return tupleHash (← vs.mapM (hashOf ev depth))
    | .range a b c =>
      let n := rangeLength a b c
      let ks ← [if 0 < n then .int a else .none, if 1 < n then .int c else .none].mapM (hashOf ev depth)
      return tupleHash (intHash n :: ks)
    | .slice .. => unhashable v
    | .ref r =>
      match ← object r with
      | .list _ | .dict _ | .set _ false => unhashable v
      | .set members true => return setHash members
      | .view kind _ => if kind ≠ .values then unhashable v else return placeHash r
      | _ =>
        match ← definedHash? ev v with
        | some k => return k
        | none =>
          match ← content? v with
          | some w => hashOf ev depth w
          | none => return placeHash r
    | _ => return placeHash 42

/-- The hash that a value is filed under. -/
def wordOf (ev : Evaluator) (v : Value) : Run Nat := do return hashWord (← hashOf ev depthLimit v)

/-- The place of a key that has the given hash. -/
def findHashed (ev : Evaluator) (es : Entries) (hash : Nat) (key : Value) : Run (Option Nat) :=
  es.find? hash fun k => equalKeys ev k key

/-- The place of a key. -/
def findKey (ev : Evaluator) (es : Entries) (key : Value) : Run (Option Nat) := do
  findHashed ev es (← wordOf ev key) key

def lookup? (ev : Evaluator) (es : Entries) (key : Value) : Run (Option Value) := do
  match ← findKey ev es key with
  | some i => return (es.get? i).map (·.value)
  | none => return none

def insertEntry (ev : Evaluator) (es : Entries) (key v : Value) : Run Entries := do
  let h ← wordOf ev key
  match ← findHashed ev es h key with
  | some i => return es.setValue i v
  | none => return es.push ⟨h, key, v⟩

/-- Binds a key in a dictionary of the heap. -/
def putEntry (ev : Evaluator) (r : Ref) (key v : Value) : Run Unit := do
  let h ← wordOf ev key
  match ← findHashed ev (← entries r) h key with
  | some i => modifyEntries r (·.setValue i v)
  | none => modifyEntries r (·.push ⟨h, key, v⟩)

def putEntries (ev : Evaluator) (r : Ref) (es : List (Value × Value)) : Run Unit :=
  es.forM fun (key, v) => putEntry ev r key v

/-! ### Sets -/

/-- The place of a value that has the given hash. -/
def placeIn (ev : Evaluator) (t : HashTable Value) (hash : Nat) (v : Value) : Run (Option Nat) :=
  t.find? hash fun w => equalKeys ev w v

def memberOf (ev : Evaluator) (t : HashTable Value) (v : Value) : Run Bool := do
  return (← placeIn ev t (← wordOf ev v) v).isSome

/-- Puts in a value that has the given hash, unless an equal one is there. -/
def insertHashed (ev : Evaluator) (t : HashTable Value) (hash : Nat) (v : Value) :
    Run (HashTable Value) := do
  match ← placeIn ev t hash v with
  | some _ => return t
  | none => return t.insertNew hash v

def insertMember (ev : Evaluator) (t : HashTable Value) (v : Value) : Run (HashTable Value) := do
  insertHashed ev t (← wordOf ev v) v

/-- A set with the members of a list. -/
def setOf (ev : Evaluator) (vs : List Value) : Run (HashTable Value) :=
  vs.foldlM (insertMember ev) .empty

/-- Takes out a value that has the given hash, if it is there. -/
def eraseHashed? (ev : Evaluator) (t : HashTable Value) (hash : Nat) (v : Value) :
    Run (Option (HashTable Value)) := do
  return (← placeIn ev t hash v).map t.erase

/-- Puts the members of another set into a set. -/
def mergeSets (ev : Evaluator) (t other : HashTable Value) : Run (HashTable Value) := do
  if other.size = 0 then return t
  let t := t.reserve other.size
  if t.filled = 0 then return t.copyFrom other
  other.entries.foldlM (fun t (h, v) => insertHashed ev t h v) t

/-- Puts the keys of a dictionary into a set. -/
def mergeKeys (ev : Evaluator) (t : HashTable Value) (keys : List Value) : Run (HashTable Value) :=
  keys.foldlM (insertMember ev) (t.reserve keys.length)

/-- The members of a set for which a test on their hashes holds. -/
def filterSet (ev : Evaluator) (t : HashTable Value) (test : Nat → Value → Run Bool) :
    Run (HashTable Value) :=
  t.entries.foldlM (fun u (h, v) => do if ← test h v then insertHashed ev u h v else return u) .empty

/-- What two sets have in common, as the smaller one lists it. -/
def commonMembers (ev : Evaluator) (s t : HashTable Value) : Run (HashTable Value) := do
  let (s, t) := if s.size < t.size then (t, s) else (s, t)
  filterSet ev t fun h v => return (← placeIn ev s h v).isSome

/-- Takes the members of a list, with their hashes, out of a set. -/
def withoutHashed (ev : Evaluator) (t : HashTable Value) (es : List (Nat × Value)) :
    Run (HashTable Value) := do
  let t ← es.foldlM (fun t (h, v) => do return (← eraseHashed? ev t h v).getD t) t
  return t.compact

/-- Takes the members of another set out of a set. -/
def withoutSet (ev : Evaluator) (t other : HashTable Value) : Run (HashTable Value) := do
  let other ← if t.size < other.size / 8 then commonMembers ev t other else pure other
  withoutHashed ev t other.entries

/-- The members of a set that are not in another. -/
def difference (ev : Evaluator) (t other : HashTable Value) : Run (HashTable Value) := do
  if other.size < t.size / 4 then
    withoutSet ev (← mergeSets ev .empty t) other
  else filterSet ev t fun h v => return (← placeIn ev other h v).isNone

/-- Takes out the members that two sets have in common, and puts in those of the other alone. -/
def symmetricUpdate (ev : Evaluator) (t other : HashTable Value) : Run (HashTable Value) :=
  other.entries.foldlM (fun t (h, v) => do
    match ← eraseHashed? ev t h v with
    | some t => return t
    | none => insertHashed ev t h v) t

/-- Whether every member of a set is one of another. -/
def isWithin (ev : Evaluator) (s t : HashTable Value) : Run Bool := do
  if t.size < s.size then return false
  s.entries.allM fun (h, v) => return (← placeIn ev t h v).isSome

/-! ### Equality -/

def equalAll (ev : Evaluator) : List Value → List Value → Run Bool
  | [], [] => return true
  | a :: as, b :: bs => do if ← ev.equal a b then equalAll ev as bs else return false
  | _, _ => return false

/-- Whether each entry has an equal one among others. -/
def entriesWithin (ev : Evaluator) (es other : Entries) : Run Bool :=
  es.toList.allM fun e => do
    match ← lookup? ev other e.1 with
    | some v => ev.equal e.2 v
    | none => return false

/-- The set that a value is, or that a view of keys or items stands for. -/
def members? (ev : Evaluator) (v : Value) : Run (Option (HashTable Value)) := do
  match ← objectOf v with
  | .set members _ => return some members
  | .view .keys d => return some (← mergeKeys ev .empty (← entries d).keys)
  | .view .items d =>
    return some (← setOf ev ((← entries d).toList.map fun e => .tuple [e.1, e.2]))
  | _ => return none

/-- Whether two values of builtin classes are equal, unless their classes do not tell. -/
def equalBuiltin? (ev : Evaluator) (a b : Value) : Run (Option Bool) := do
  match number? a, number? b with
  | some x, some y => return some (x.equals y)
  | _, _ =>
    match a, b with
    | .str p _, .str q _ => return some (p == q)
    | .bytes p _, .bytes q _ => return some (p == q)
    | .tuple as _, .tuple bs _ =>
      return some (← if as.length = bs.length then equalAll ev as bs else pure false)
    | .slice a1 a2 a3, .slice b1 b2 b3 => return some (← equalAll ev [a1, a2, a3] [b1, b2, b3])
    | .range a1 a2 a3, .range b1 b2 b3 =>
      let n := rangeLength a1 a2 a3
      return some (n = rangeLength b1 b2 b3 && (n = 0 || a1 = b1 && (n = 1 || a3 = b3)))
    | .ref r, .ref s =>
      match ← object r, ← object s with
      | .list as, .list bs =>
        return some (← if as.size = bs.size then equalAll ev as.toList bs.toList else pure false)
      | .dict es, .dict fs =>
        return some (← if es.size = fs.size then entriesWithin ev es fs else pure false)
      | _, _ =>
        match ← members? ev a, ← members? ev b with
        | some as, some bs =>
          return some (← if as.size = bs.size then isWithin ev as bs else pure false)
        | _, _ => return none
    | _, _ => return none

/-- The name of the method that answers a comparison, and of the one that answers it from the other
side. -/
def comparisonNames : CompareOp → Option (Text × Text)
  | .eq => some ("__eq__", "__eq__")
  | .ne => some ("__ne__", "__ne__")
  | .lt => some ("__lt__", "__gt__")
  | .le => some ("__le__", "__ge__")
  | .gt => some ("__gt__", "__lt__")
  | .ge => some ("__ge__", "__le__")
  | _ => none

/-- What a class of the program answers to a comparison. -/
def definedComparison? (ev : Evaluator) (v : Value) (name : Text) (other : Value) :
    Run (Option Value) := do
  match ← callSpecial? ev v name [other] with
  | some .notImplemented => return none
  | some w => return some w
  | none =>
    if name = "__ne__".toList then
      match ← callSpecial? ev v "__eq__" [other] with
      | some .notImplemented => return none
      | some w => return some (.bool (!(← truth ev w)))
      | none => return none
    else return none

/-- Whether the class of the second value derives from that of the first. -/
def isDerived (a b : Value) : Run Bool := do
  let c ← classOf a
  let d ← classOf b
  return c ≠ d && (← isSubclass d c)

/-- What a class of the program answers, first that of the left value, unless the right one's derives
from it. -/
def definedAnswer? (ev : Evaluator) (names : Text × Text) (a b : Value) : Run (Option Value) := do
  if ← isDerived a b then
    match ← definedComparison? ev b names.2 a with
    | some w => return some w
    | none => definedComparison? ev a names.1 b
  else
    match ← definedComparison? ev a names.1 b with
    | some w => return some w
    | none => definedComparison? ev b names.2 a

/-! ### Order -/

def holds (op : CompareOp) (o : Ordering) : Bool :=
  match op with
  | .lt => o == .lt
  | .le => o != .gt
  | .gt => o == .gt
  | .ge => o != .lt
  | .eq => o == .eq
  | .ne => o != .eq
  | _ => false

def comparePoints : Points → Points → Ordering
  | [], [] => .eq
  | [], _ => .lt
  | _, [] => .gt
  | a :: as, b :: bs => if a < b then .lt else if b < a then .gt else comparePoints as bs

/-- Compares lists by the first items that differ, and else by their lengths. -/
def orderAll (ev : Evaluator) (op : CompareOp) : List Value → List Value → Run Value
  | [], [] => return .bool (holds op .eq)
  | [], _ => return .bool (holds op .lt)
  | _, [] => return .bool (holds op .gt)
  | a :: as, b :: bs => do if ← ev.equal a b then orderAll ev op as bs else ev.compare op a b

def orderBuiltin? (ev : Evaluator) (op : CompareOp) (a b : Value) : Run (Option Value) := do
  match number? a, number? b with
  | some x, some y =>
    if x.isComplex || y.isComplex then return none
    return some (.bool (match x.compare? y with
      | some o => holds op o
      | none => false))
  | _, _ =>
    match a, b with
    | .str p _, .str q _ => return some (.bool (holds op (comparePoints p q)))
    | .bytes p _, .bytes q _ => return some (.bool (holds op (comparePoints p q)))
    | .tuple as _, .tuple bs _ => return some (← orderAll ev op as bs)
    | .ref r, .ref s =>
      match ← object r, ← object s with
      | .list as, .list bs => return some (← orderAll ev op as.toList bs.toList)
      | _, _ =>
        match ← members? ev a, ← members? ev b with
        | some as, some bs =>
          let r ← match op with
            | .le => isWithin ev as bs
            | .ge => isWithin ev bs as
            | .lt => if as.size < bs.size then isWithin ev as bs else pure false
            | _ => if bs.size < as.size then isWithin ev bs as else pure false
          return some (.bool r)
        | _, _ => return none
    | _, _ => return none

def CompareOp.sign : CompareOp → Text
  | .eq => "=="
  | .ne => "!="
  | .lt => "<"
  | .le => "<="
  | .gt => ">"
  | .ge => ">="
  | .isSame => "is"
  | .isNot => "is not"
  | .contains => "in"
  | .notContains => "not in"

/-- Compares two values by what their classes define. -/
def compareByClass (ev : Evaluator) (op : CompareOp) (a b : Value) : Run Value := do
  let defined ← match comparisonNames op with
    | some names => definedAnswer? ev names a b
    | none => pure none
  match defined with
  | some v => return v
  | none =>
    let x ← content a
    let y ← content b
    match op with
    | .eq => return .bool ((← equalBuiltin? ev x y).getD (a.same b))
    | .ne => return .bool (!(← equalBuiltin? ev x y).getD (a.same b))
    | _ =>
      match ← orderBuiltin? ev op x y with
      | some v => return v
      | none =>
        typeError ("'" ++ CompareOp.sign op ++ "' not supported between instances of '" ++
          (← typeName a) ++ "' and '" ++ (← typeName b) ++ "'")

/-- Compares two values by equality or order. -/
def compareOf (ev : Evaluator) (op : CompareOp) (a b : Value) : Run Value :=
  nested " in comparison" (compareByClass ev op a b)

/-- Whether two values are compared without a level of their own where the answer decides what is
done next: integers, floats, and strings by equality. -/
def isLightComparison (op : CompareOp) (a b : Value) : Bool :=
  match a, b with
  | .int .., .int .. => true
  | .float .., .float .. => true
  | .str .., .str .. => op = .eq || op = .ne
  | _, _ => false

def equalOf (ev : Evaluator) (a b : Value) : Run Bool := do
  if a.same b then return true
  truth ev (← ev.compare .eq a b)

end ThaiScript.Machine
