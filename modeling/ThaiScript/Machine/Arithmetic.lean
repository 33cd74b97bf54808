import ThaiScript.Decimal.Bits
import ThaiScript.Machine.Item

/-!
# Arithmetic

Operators on numbers, and those that join or repeat sequences. A class of the program may define
operators for its instances, from the left, from the right and in place.
-/

namespace ThaiScript.Machine

open Program Run

namespace Operator

def sign : BinaryOp → Text
  | .add => "+"
  | .sub => "-"
  | .mul => "*"
  | .div => "/"
  | .floorDiv => "//"
  | .mod => "%"
  | .pow => "**"
  | .matMul => "@"
  | .shiftLeft => "<<"
  | .shiftRight => ">>"
  | .bitAnd => "&"
  | .bitOr => "|"
  | .bitXor => "^"

/-- The part of the names of its special methods that an operator has. -/
def stem : BinaryOp → Text
  | .add => "add"
  | .sub => "sub"
  | .mul => "mul"
  | .div => "truediv"
  | .floorDiv => "floordiv"
  | .mod => "mod"
  | .pow => "pow"
  | .matMul => "matmul"
  | .shiftLeft => "lshift"
  | .shiftRight => "rshift"
  | .bitAnd => "and"
  | .bitOr => "or"
  | .bitXor => "xor"

def method (op : BinaryOp) : Text := "__" ++ stem op ++ "__"

def reflected (op : BinaryOp) : Text := "__r" ++ stem op ++ "__"

def inPlace (op : BinaryOp) : Text := "__i" ++ stem op ++ "__"

end Operator

/-! ### Integers -/

/-- The most bits that a result may have. -/
def bitLimit : Nat := 2 ^ 33

def requireFloat (n : Int) : Run Float :=
  match Decimal.ofInt? n with
  | some x => return x
  | none => fail .overflowError "int too large to convert to float"

def floatToInt (x : Float) : Run Int := do
  match Decimal.Binary.ofFloat? x with
  | some b => return b.truncate
  | none =>
    if x.isNaN then valueError "cannot convert float NaN to integer"
    else fail .overflowError "cannot convert float infinity to integer"

def complexPower (a b : Complex) : Run Value := do
  match a.pow? b with
  | none => fail .zeroDivisionError "0.0 to a negative or complex power"
  | some z =>
    if z.re.isInf || z.im.isInf then fail .overflowError "complex exponentiation"
    return .complex z

/-- A power of floats, which is complex where a negative number has a fractional exponent. -/
def floatPower (x y : Float) : Run Value := do
  if x == 0 && y < 0 then fail .zeroDivisionError "0.0 cannot be raised to a negative power"
  if x < 0 && !x.isInf && !y.isInf && !(y.floor == y) then
    return ← complexPower (.ofFloat x) (.ofFloat y)
  let z := Float.pow x y
  if z.isInf && !x.isInf && !y.isInf then
    failWith .overflowError [.int 34, .ofString "Numerical result out of range"]
  return .float z

def intPower (a b : Int) : Run Value := do
  if b < 0 then
    if a = 0 then fail .zeroDivisionError "0.0 cannot be raised to a negative power"
    floatPower (← requireFloat a) (← requireFloat b)
  else if 1 < a.natAbs && bitLimit < a.natAbs.log2 * b.toNat then failWith .memoryError []
  else return .int (a ^ b.toNat)

def intArithmetic (op : BinaryOp) (a b : Int) : Run Value := do
  match op with
  | .add => return .int (a + b)
  | .sub => return .int (a - b)
  | .mul => return .int (a * b)
  | .div =>
    if b = 0 then fail .zeroDivisionError "division by zero"
    match divide a b with
    | some x => return .float x
    | none => fail .overflowError "integer division result too large for a float"
  | .floorDiv =>
    if b = 0 then fail .zeroDivisionError "integer division or modulo by zero"
    return .int (Int.fdiv a b)
  | .mod =>
    if b = 0 then fail .zeroDivisionError "integer modulo by zero"
    return .int (Int.fmod a b)
  | .pow => intPower a b
  | .shiftLeft =>
    if b < 0 then valueError "negative shift count"
    if a = 0 then return .int 0
    if bitLimit < b.toNat then failWith .memoryError []
    return .int (a * 2 ^ b.toNat)
  | .shiftRight =>
    if b < 0 then valueError "negative shift count"
    if a.natAbs.log2 < b.toNat then return .int (if a < 0 then -1 else 0)
    return .int (Int.fdiv a (2 ^ b.toNat))
  | .bitAnd => return .int (Decimal.bitwise Nat.land a b)
  | .bitOr => return .int (Decimal.bitwise Nat.lor a b)
  | .bitXor => return .int (Decimal.bitwise Nat.xor a b)
  | .matMul => return .notImplemented

/-- `none` for the operators that floats do not have. -/
def floatArithmetic? (op : BinaryOp) (x y : Float) : Run (Option Value) := do
  match op with
  | .add => return some (.float (x + y))
  | .sub => return some (.float (x - y))
  | .mul => return some (.float (x * y))
  | .div =>
    if y == 0 then fail .zeroDivisionError "float division by zero"
    return some (.float (x / y))
  | .floorDiv =>
    if y == 0 then fail .zeroDivisionError "float floor division by zero"
    return some (.float (floatDivMod x y).1)
  | .mod =>
    if y == 0 then fail .zeroDivisionError "float modulo"
    return some (.float (floatDivMod x y).2)
  | .pow => return some (← floatPower x y)
  | _ => return none

/-- `none` for the operators that complex numbers do not have. -/
def complexArithmetic? (op : BinaryOp) (a b : Complex) : Run (Option Value) := do
  match op with
  | .add => return some (.complex (a.add b))
  | .sub => return some (.complex (a.sub b))
  | .mul => return some (.complex (a.mul b))
  | .div =>
    match a.div? b with
    | some z => return some (.complex z)
    | none => fail .zeroDivisionError "complex division by zero"
  | .pow => return some (← complexPower a b)
  | _ => return none

def Number.toComplex : Number → Run Complex
  | .int n => return .ofFloat (← requireFloat n)
  | .float x => return .ofFloat x
  | .complex z => return z

/-- Whether an operator is one on integers alone, or on no numbers at all. -/
def isForIntegers (op : BinaryOp) : Bool :=
  match op with
  | .shiftLeft | .shiftRight | .bitAnd | .bitOr | .bitXor | .matMul => true
  | _ => false

def numberArithmetic? (op : BinaryOp) (a b : Number) : Run (Option Value) := do
  match a, b with
  | .int m, .int n => if op = .matMul then return none else return some (← intArithmetic op m n)
  | .int m, .float y =>
    if isForIntegers op then return none else floatArithmetic? op (← requireFloat m) y
  | .float x, .int n =>
    if isForIntegers op then return none else floatArithmetic? op x (← requireFloat n)
  | .float x, .float y => floatArithmetic? op x y
  | a, b =>
    if isForIntegers op || op = .floorDiv || op = .mod then return none
    else complexArithmetic? op (← a.toComplex) (← b.toComplex)

/-- The operators on truth values that answer a truth value. -/
def boolArithmetic? (op : BinaryOp) (a b : Bool) : Option Bool :=
  match op with
  | .bitAnd => some (a && b)
  | .bitOr => some (a || b)
  | .bitXor => some (a != b)
  | _ => none

/-! ### Sequences -/

/-- The most items that a repetition may have. -/
def itemLimit : Nat := 2 ^ 28

def repeated {α : Type} (n : Int) (xs : List α) : Run (List α) := do
  if xs.isEmpty then return []
  if itemLimit < n.toNat * xs.length then failWith .memoryError []
  return (List.replicate n.toNat xs).flatten

def repetition? (v : Value) (n : Int) : Run (Option Value) := do
  match v with
  | .str p _ => return some (.str (← repeated n p))
  | .bytes bs _ => return some (.bytes (← repeated n bs))
  | .tuple vs _ => return some (.tuple (← repeated n vs))
  | _ =>
    match ← objectOf v with
    | .list items => return some (← newList (← repeated n items.toList))
    | _ => return none

def isSequence (v : Value) : Run Bool := do
  match v with
  | .str _ _ | .bytes _ _ | .tuple _ _ => return true
  | _ =>
    match ← objectOf v with
    | .list _ => return true
    | _ => return false

def cannotConcatenate {α : Type} (kind : Text) (v : Value) : Run α := do
  typeError ("can only concatenate " ++ kind ++ " (not \"" ++ (← typeName v) ++ "\") to " ++ kind)

/-- Joins two sequences; `none` when the left value is no sequence. -/
def concatenation? (a b : Value) : Run (Option Value) := do
  match a, b with
  | .str p _, .str q _ => return some (.str (p ++ q))
  | .str _ _, _ => cannotConcatenate "str" b
  | .bytes p _, .bytes q _ => return some (.bytes (p ++ q))
  | .bytes _ _, _ => typeError ("can't concat " ++ (← typeName b) ++ " to bytes")
  | .tuple p _, .tuple q _ => return some (.tuple (p ++ q))
  | .tuple _ _, _ => cannotConcatenate "tuple" b
  | _, _ =>
    match ← objectOf a with
    | .list xs =>
      match ← objectOf b with
      | .list ys => return some (← new (.list (xs ++ ys)))
      | _ => cannotConcatenate "list" b
    | _ => return none

def multiplySequence? (ev : Evaluator) (a b : Value) : Run (Option Value) := do
  let times (v n : Value) : Run (Option Value) := do
    match ← index? ev n with
    | some k =>
      if k < -(2 ^ 63) ∨ 2 ^ 63 ≤ k then
        fail .overflowError ("cannot fit '" ++ (← typeName n) ++ "' into an index-sized integer")
      repetition? v k
    | none => typeError ("can't multiply sequence by non-int of type '" ++ (← typeName n) ++ "'")
  if ← isSequence a then times a b
  else if ← isSequence b then times b a
  else return none

def setArithmetic? (ev : Evaluator) (op : BinaryOp) (a b : Value) : Run (Option Value) := do
  match ← members? ev a, ← members? ev b with
  | some xs, some ys =>
    let frozen := match ← objectOf a with
      | .set _ f => f
      | _ => false
    let result : Option (Run (HashTable Value)) := match op with
      | .bitAnd => some (commonMembers ev xs ys)
      | .sub => some (difference ev xs ys)
      | .bitOr => some do mergeSets ev (← mergeSets ev .empty xs) ys
      | .bitXor => some do symmetricUpdate ev (← mergeSets ev .empty ys) xs
      | _ => none
    match result with
    | some members => return some (← new (.set (← members) frozen))
    | none => return none
  | _, _ =>
    match op, ← objectOf a, ← objectOf b with
    | .bitOr, .dict es, .dict fs =>
      let all ← fs.toList.foldlM (fun es f => insertEntry ev es f.1 f.2) es
      return some (← newDict all)
    | _, _, _ => return none

/-- The members that an operator leaves in a set that it changes in place. -/
def changedSet? (ev : Evaluator) (op : BinaryOp) (xs : HashTable Value) (b : Value) :
    Run (Option (HashTable Value)) := do
  match ← objectOf b with
  | .set ys _ =>
    match op with
    | .bitAnd => return some (← commonMembers ev xs ys)
    | .sub => return some (← withoutSet ev xs ys)
    | .bitOr => return some (← mergeSets ev xs ys)
    | .bitXor => return some (← symmetricUpdate ev xs ys)
    | _ => return none
  | _ => return none

/-! ### Operators -/

def arithmetic? (ev : Evaluator) (op : BinaryOp) (a b : Value) : Run (Option Value) := do
  match a, b with
  | .bool x, .bool y =>
    match boolArithmetic? op x y with
    | some r => return some (.bool r)
    | none => numberArithmetic? op (.int (if x then 1 else 0)) (.int (if y then 1 else 0))
  | _, _ =>
    match number? a, number? b with
    | some x, some y => numberArithmetic? op x y
    | _, _ =>
      match op with
      | .add => concatenation? a b
      | .mul => multiplySequence? ev a b
      | _ => setArithmetic? ev op a b

def definedOperator? (ev : Evaluator) (name : Text) (a b : Value) : Run (Option Value) := do
  match ← callSpecial? ev a name [b] with
  | some .notImplemented => return none
  | r => return r

def unsupported {α : Type} (sign : Text) (a b : Value) : Run α := do
  typeError ("unsupported operand type(s) for " ++ sign ++ ": '" ++ (← typeName a) ++ "' and '" ++
    (← typeName b) ++ "'")

/-- What an operator of two values is; `format` is the operator `%` of a text or of bytes. -/
def binaryWith (ev : Evaluator) (format : Value → Value → Run (Option Value)) (sign : Text) (op : BinaryOp)
    (a b : Value) : Run Value := do
  let derived ← isDerived a b
  let early ← if derived then definedOperator? ev (Operator.reflected op) b a else pure none
  match early with
  | some v => return v
  | none =>
    match ← definedOperator? ev (Operator.method op) a b with
    | some v => return v
    | none =>
      let late ← if derived then pure none else definedOperator? ev (Operator.reflected op) b a
      match late with
      | some v => return v
      | none =>
        let x ← content a
        let y ← content b
        let filled ← if op = .mod then format x b else pure none
        match filled with
        | some v => return v
        | none =>
          match ← arithmetic? ev op x y with
          | some v => return v
          | none => unsupported sign a b

/-- The operator sign that complaints name: both spellings of powers. -/
def complaintSign (op : BinaryOp) (augmented : Bool) : Text :=
  if augmented then Operator.sign op ++ "="
  else if op = .pow then "** or pow()"
  else Operator.sign op

/-- The value of an augmented assignment. Lists and sets change in place. -/
def augment (ev : Evaluator) (format : Value → Value → Run (Option Value)) (op : BinaryOp) (a b : Value) :
    Run Value := do
  match ← definedOperator? ev (Operator.inPlace op) a b with
  | some v => return v
  | none =>
    let plain : Run Value := binaryWith ev format (complaintSign op true) op a b
    match a with
    | .ref r =>
      match ← object r, op with
      | .list _, .add =>
        let more ← itemsOf ev b
        modifyObject r fun o =>
          match o with
          | .list items => .list (items ++ more.toArray)
          | o => o
        return a
      | .list items, .mul =>
        match ← index? ev b with
        | some n =>
          setObject r (.list (← repeated n items.toList).toArray)
          return a
        | none => plain
      | .set xs false, _ =>
        match ← changedSet? ev op xs b with
        | some members =>
          setObject r (.set members false)
          return a
        | none => plain
      | .dict es, .bitOr =>
        match ← objectOf b with
        | .dict fs =>
          setObject r (.dict (← fs.toList.foldlM (fun es f => insertEntry ev es f.1 f.2) es))
          return a
        | _ => plain
      | _, _ => plain
    | _ => plain

def unaryName : UnaryOp → Text × Text
  | .plus => ("__pos__", "+")
  | .minus => ("__neg__", "-")
  | .invert => ("__invert__", "~")

def unary (ev : Evaluator) (op : UnaryOp) (v : Value) : Run Value := do
  let (name, sign) := unaryName op
  match ← callSpecial? ev v name [] with
  | some w => return w
  | none =>
    match op, number? (← content v) with
    | .plus, some (.int n) => return match v with
      | .int .. => v
      | _ => .int n
    | .minus, some (.int n) => return .int (-n)
    | .invert, some (.int n) => return .int (-n - 1)
    | .plus, some _ => return v
    | .minus, some (.float x) => return .float (-x)
    | .minus, some (.complex z) => return .complex z.neg
    | _, _ => typeError ("bad operand type for unary " ++ sign ++ ": '" ++ (← typeName v) ++ "'")

end ThaiScript.Machine
