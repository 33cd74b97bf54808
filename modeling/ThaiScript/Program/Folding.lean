import ThaiScript.Decimal.Bits
import ThaiScript.Program.Ast

/-!
# Folding

An expression of constants alone is folded into a constant before the program runs, unless that fails
or makes something large. Of floats only the type is kept, and whether they are zero.
-/

namespace ThaiScript.Program

inductive Folded
  | none
  | ellipsis
  | bool (b : Bool)
  | int (n : Int)
  | float (isZero : Bool)
  | complex
  | text (p : Points)
  | bytes (p : Points)
  | tuple (items : List Folded)

namespace Folded

def typeName : Folded → String
  | none => "NoneType"
  | ellipsis => "ellipsis"
  | bool _ => "bool"
  | int _ => "int"
  | float _ => "float"
  | complex => "complex"
  | text _ => "str"
  | bytes _ => "bytes"
  | tuple _ => "tuple"

/-- Whether there is only one value like this, so that it may be told by identity. -/
def isUnique : Folded → Bool
  | none | ellipsis | bool _ => true
  | _ => false

def holds : Folded → Bool
  | none => false
  | ellipsis => true
  | bool b => b
  | int n => n ≠ 0
  | float isZero => !isZero
  | complex => true
  | text p => !p.isEmpty
  | bytes p => !p.isEmpty
  | tuple items => !items.isEmpty

def int? : Folded → Option Int
  | int n => some n
  | bool b => some (if b then 1 else 0)
  | _ => .none

/-- The number of bits of an integer without its sign. -/
def bits (n : Int) : Nat := if n = 0 then 0 else n.natAbs.log2 + 1

/-- The number of bits that an integer may have to be kept. -/
def maxBits : Nat := 128

/-- The number of items that a repeated tuple may have to be kept. -/
def maxItems : Nat := 256

/-- The length that a repeated text may have to be kept. -/
def maxLength : Nat := 4096

def ofInts (op : BinaryOp) (a b : Int) : Option Folded :=
  match op with
  | .add => some (int (a + b))
  | .sub => some (int (a - b))
  | .mul => if a ≠ 0 && b ≠ 0 && maxBits < bits a + bits b then .none else some (int (a * b))
  | .div => if b = 0 then .none else some (float (a = 0))
  | .floorDiv => if b = 0 then .none else some (int (a.fdiv b))
  | .mod => if b = 0 then .none else some (int (a.fmod b))
  | .pow =>
    if b < 0 then if a = 0 then .none else some (float false)
    else if b ≠ 0 && maxBits / b.natAbs < bits a then .none
    else some (int (a ^ b.natAbs))
  | .matMul => .none
  | .shiftLeft =>
    if b < 0 then .none
    else if a = 0 then some (int 0)
    else if maxBits < bits b || maxBits < bits a + b.natAbs then .none
    else some (int (a * 2 ^ b.natAbs))
  | .shiftRight => if b < 0 then .none else some (int (a >>> (min b.natAbs (bits a + 1))))
  | .bitAnd => some (int (Decimal.bitwise Nat.land a b))
  | .bitOr => some (int (Decimal.bitwise Nat.lor a b))
  | .bitXor => some (int (Decimal.bitwise Nat.xor a b))

def isNumber : Folded → Bool
  | bool _ | int _ | float _ | complex => true
  | _ => false

def isZero : Folded → Bool
  | float z => z
  | v => v.int? = some 0

/-- An operator on numbers of which one is no integer. -/
def ofNumbers (op : BinaryOp) (a b : Folded) : Option Folded :=
  let isComplex := a.typeName = "complex" || b.typeName = "complex"
  let result := if isComplex then complex else float (a.isZero && b.isZero)
  match op with
  | .add | .sub | .mul => some result
  | .div => if b.isZero then .none else some result
  | .floorDiv | .mod => if isComplex || b.isZero then .none else some result
  | .pow => if isComplex then some complex else if a.isZero then .none else some (float false)
  | _ => .none

/-- A list many times over, unless it becomes longer than a bound. -/
def repeated? {α : Type} (n : Int) (bound : Nat) (xs : List α) : Option (List α) :=
  if xs.isEmpty then some xs
  else if n < 0 || bound / xs.length < n then .none
  else some (List.replicate n.toNat xs).flatten

/-- A text, bytes or a tuple many times over. -/
def times (n : Int) : Folded → Option Folded
  | text p => (repeated? n maxLength p).map text
  | bytes p => (repeated? n maxLength p).map bytes
  | tuple vs => (repeated? n maxItems vs).map tuple
  | _ => .none

def binary (op : BinaryOp) (a b : Folded) : Option Folded :=
  match op, a, b with
  | .bitAnd, bool x, bool y => some (bool (x && y))
  | .bitOr, bool x, bool y => some (bool (x || y))
  | .bitXor, bool x, bool y => some (bool (x != y))
  | .add, text p, text q => some (text (p ++ q))
  | .add, bytes p, bytes q => some (bytes (p ++ q))
  | .add, tuple vs, tuple ws => some (tuple (vs ++ ws))
  | op, a, b =>
    match a.int?, b.int? with
    | some x, some y => ofInts op x y
    | some x, .none =>
      if b.isNumber then ofNumbers op a b else if op = .mul then times x b else .none
    | .none, some y =>
      if a.isNumber then ofNumbers op a b else if op = .mul then times y a else .none
    | .none, .none => if a.isNumber && b.isNumber then ofNumbers op a b else .none

def unary (op : UnaryOp) (v : Folded) : Option Folded :=
  match op, v.int? with
  | .plus, some n => some (int n)
  | .minus, some n => some (int (-n))
  | .invert, some n => some (int (-n - 1))
  | .invert, .none => .none
  | _, .none => if v.isNumber then some v else .none

/-- The element at an index, which counts from the end when it is negative. -/
def element? {α : Type} (xs : List α) (i : Int) : Option α :=
  let i := if i < 0 then i + xs.length else i
  if i < 0 then .none else xs[i.toNat]?

def subscript (v i : Folded) : Option Folded :=
  match v, i.int? with
  | text p, some i => (element? p i).map fun c => text [c]
  | bytes p, some i => (element? p i).map fun c => int c
  | tuple vs, some i => element? vs i
  | _, _ => .none

def ofConstant : Constant → Folded
  | .none => none
  | .bool b => bool b
  | .ellipsis => ellipsis
  | .int n => int n
  | .float digits _ => float (digits = 0)
  | .imaginary _ _ => complex
  | .text p => text p
  | .bytes p => bytes p

mutual

/-- The constant that an expression is folded into. -/
def ofExpr? : Expr → Option Folded
  | .const c => some (ofConstant c)
  | .shared e => ofExpr? e
  | .tuple _ es => (ofExprs? es).map tuple
  | .not _ e => (ofExpr? e).map fun v => bool !v.holds
  | .unary _ op e => (ofExpr? e).bind (unary op)
  | .binary _ op a b => do binary op (← ofExpr? a) (← ofExpr? b)
  | .subscript _ e i => do subscript (← ofExpr? e) (← ofExpr? i)
  | _ => .none

def ofExprs? : List Expr → Option (List Folded)
  | [] => some []
  | e :: es => do return (← ofExpr? e) :: (← ofExprs? es)

end

end Folded

end ThaiScript.Program
