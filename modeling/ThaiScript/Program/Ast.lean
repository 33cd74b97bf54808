import ThaiScript.Text.Points

/-!
# Programs

A program is a list of statements. Expressions and statements that can fail carry the line that a
traceback shows for them.
-/

namespace ThaiScript.Program

inductive BinaryOp
  | add | sub | mul | div | floorDiv | mod | pow | matMul | shiftLeft | shiftRight | bitAnd | bitOr
  | bitXor
deriving DecidableEq, Repr

inductive UnaryOp
  | plus | minus | invert
deriving DecidableEq, Repr

inductive CompareOp
  | eq | ne | lt | le | gt | ge | isSame | isNot | contains | notContains
deriving DecidableEq, Repr

inductive ParamKind
  | positionalOnly
  | normal
  | rest
  | keywordOnly
  | keywords
deriving DecidableEq, Repr

inductive ComprehensionKind
  | list
  | set
  | dict
  | generator
deriving DecidableEq, Repr

inductive Constant
  | none
  | bool (b : Bool)
  | ellipsis
  | int (n : Nat)
  | float (digits : Nat) (exponent : Int)
  | imaginary (digits : Nat) (exponent : Int)
  | text (p : Points)
  | bytes (p : Points)
deriving Repr

mutual

inductive Expr
  | const (c : Constant)
  | joined (line : Nat) (parts : List FormatPart)
  | name (line : Nat) (id : Text)
  | tuple (line : Nat) (es : List Expr)
  | list (line : Nat) (es : List Expr)
  | set (line : Nat) (es : List Expr)
  | dict (line : Nat) (items : List DictItem)
  | star (line : Nat) (e : Expr)
  | named (id : Text) (e : Expr)
  | conditional (line : Nat) (test body orelse : Expr)
  | anyOf (line : Nat) (es : List Expr)
  | allOf (line : Nat) (es : List Expr)
  | not (line : Nat) (e : Expr)
  | compare (line : Nat) (left : Expr) (rest : List Comparison)
  | binary (line : Nat) (op : BinaryOp) (left right : Expr)
  | unary (line : Nat) (op : UnaryOp) (e : Expr)
  | member (line : Nat) (e : Expr) (name : Text)
  | call (line : Nat) (f : Expr) (args : List Argument)
  | subscript (line : Nat) (e index : Expr)
  | slice (start stop step : Option Expr)
  | comprehension (line : Nat) (kind : ComprehensionKind) (key : Option Expr) (value : Expr)
      (clauses : List Clause)
  | lambda (line : Nat) (params : List Param) (body : Expr)
  /-- A construct that is part of the language and that no program here may evaluate. -/
  | unsupported (line : Nat) (what : String)
  /-- An expression of constants alone, whose value is the same each time. -/
  | shared (e : Expr)

/-- A part of a formatted string. -/
inductive FormatPart
  | text (p : Points)
  | value (e : Expr) (conversion : Option Char) (spec : List FormatPart)

inductive DictItem
  | pair (key value : Expr)
  | unpack (e : Expr)

inductive Comparison
  | mk (op : CompareOp) (e : Expr)

inductive Argument
  | positional (e : Expr)
  | unpack (e : Expr)
  | keyword (name : Text) (e : Expr)
  | unpackKeywords (e : Expr)

/-- A `for` of a comprehension and the conditions behind it. -/
inductive Clause
  | mk (target iter : Expr) (conditions : List Expr)

inductive Param
  | mk (name : Text) (kind : ParamKind) (default_ annotation : Option Expr)

end

instance : Inhabited Expr := ⟨.const .none⟩

namespace Expr

/-- Whether an expression is made of constants alone. -/
def isConstant : Expr → Bool
  | const _ => true
  | shared _ => true
  | _ => false

/-- Marks an expression whose operands are all constant. -/
def sharedIf (constant : Bool) (e : Expr) : Expr := if constant then shared e else e

end Expr

def Param.name : Param → Text
  | .mk n _ _ _ => n

def Param.kind : Param → ParamKind
  | .mk _ k _ _ => k

def Param.default? : Param → Option Expr
  | .mk _ _ d _ => d

def Param.annotation? : Param → Option Expr
  | .mk _ _ _ a => a

mutual

inductive Stmt
  | expr (line : Nat) (e : Expr)
  | assign (line : Nat) (targets : List Expr) (value : Expr)
  | annotate (line : Nat) (target annotation : Expr) (value : Option Expr)
  | augment (line : Nat) (target : Expr) (op : BinaryOp) (value : Expr)
  | ret (line : Nat) (e : Option Expr)
  | raise (line : Nat) (exception cause : Option Expr)
  | global (line : Nat) (names : List Text)
  | nonlocal (line : Nat) (names : List Text)
  | del (line : Nat) (targets : List Expr)
  | assert (line : Nat) (test : Expr) (message : Option Expr)
  | import_ (line : Nat) (modules : List (List Text × Option Text))
  /-- `none` imports every public name. -/
  | importFrom (line : Nat) (dots : Nat) (module : List Text)
      (names : Option (List (Text × Option Text)))
  | pass
  | break_ (line : Nat)
  | continue_ (line : Nat)
  | if_ (test : Expr) (body orelse : List Stmt)
  | while_ (line : Nat) (test : Expr) (body orelse : List Stmt)
  | for_ (line : Nat) (target iter : Expr) (body orelse : List Stmt)
  | with_ (line : Nat) (items : List (Expr × Option Expr)) (body : List Stmt)
  | try_ (line : Nat) (body : List Stmt) (handlers : List Handler) (orelse final : List Stmt)
  | function (line : Nat) (decorators : List (Nat × Expr)) (name : Text) (params : List Param)
      (returns : Option Expr) (body : List Stmt)
  | class_ (line : Nat) (decorators : List (Nat × Expr)) (name : Text) (args : List Argument)
      (body : List Stmt)
  | unsupported (line : Nat) (what : String)

/-- A handler of exceptions: of all, when it names no type. -/
inductive Handler
  | mk (line : Nat) (type : Option Expr) (name : Option Text) (body : List Stmt)

end

instance : Inhabited Stmt := ⟨.pass⟩

end ThaiScript.Program
