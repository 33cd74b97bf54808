import ThaiScript.Program.Ast

/-!
# Depth

How deep the parts of a program stand in each other. A statement and an expression count once. Between
them stand auxiliary parts, such as the list of the parameters of a function, which count `aux`.
-/

namespace ThaiScript.Program

namespace Depth

variable (aux : Nat)

mutual

def expr : Expr → Nat
  | .const _ => 1
  | .joined _ ps => formatParts ps + 1
  | .name _ _ => 1
  | .tuple _ es => exprs es + 1
  | .list _ es => exprs es + 1
  | .set _ es => exprs es + 1
  | .dict _ ds => dictItems ds + 1
  | .star _ e => expr e + 1
  | .named _ e => expr e + 1
  | .conditional _ a b c => max (expr a) (max (expr b) (expr c)) + 1
  | .anyOf _ es => exprs es + 1
  | .allOf _ es => exprs es + 1
  | .not _ e => expr e + 1
  | .compare _ e cs => max (expr e) (comparisons cs) + 1
  | .binary _ _ a b => max (expr a) (expr b) + 1
  | .unary _ _ e => expr e + 1
  | .member _ e _ => expr e + 1
  | .call _ f as => max (expr f) (arguments as) + 1
  | .subscript _ e i => max (expr e) (expr i) + 1
  | .slice a b c => max (optional a) (max (optional b) (optional c)) + 1
  | .comprehension _ _ k v cs => max (optional k) (max (expr v) (clauses cs)) + 1
  | .lambda _ ps e => max (aux + params ps) (expr e) + 1
  | .unsupported _ _ => 1
  | .shared e => expr e

def exprs : List Expr → Nat
  | [] => 0
  | e :: es => max (expr e) (exprs es)

def optional : Option Expr → Nat
  | none => 0
  | some e => expr e

def dictItems : List DictItem → Nat
  | [] => 0
  | .pair k v :: ds => max (expr k) (max (expr v) (dictItems ds))
  | .unpack e :: ds => max (expr e) (dictItems ds)

def comparisons : List Comparison → Nat
  | [] => 0
  | .mk _ e :: cs => max (expr e) (comparisons cs)

def arguments : List Argument → Nat
  | [] => 0
  | .positional e :: as => max (expr e) (arguments as)
  | .unpack e :: as => max (expr e + 1) (arguments as)
  | .keyword _ e :: as => max (aux + expr e) (arguments as)
  | .unpackKeywords e :: as => max (aux + expr e) (arguments as)

def clauses : List Clause → Nat
  | [] => 0
  | .mk t iter cs :: rest => max (aux + max (expr t) (max (expr iter) (exprs cs))) (clauses rest)

def formatParts : List FormatPart → Nat
  | [] => 0
  | .text _ :: ps => max 1 (formatParts ps)
  | .value e _ spec :: ps =>
    let spec := if spec.isEmpty then 0 else formatParts spec + 1
    max (max (expr e) spec + 1) (formatParts ps)

def params : List Param → Nat
  | [] => 0
  | .mk _ _ d a :: ps => max (max (aux + optional a) (optional d)) (params ps)

end

mutual

def stmt : Stmt → Nat
  | .expr _ e => expr aux e + 1
  | .assign _ ts v => max (exprs aux ts) (expr aux v) + 1
  | .annotate _ t a v => max (expr aux t) (max (expr aux a) (optional aux v)) + 1
  | .augment _ t _ v => max (expr aux t) (expr aux v) + 1
  | .ret _ e => optional aux e + 1
  | .raise _ e c => max (optional aux e) (optional aux c) + 1
  | .global _ _ => 1
  | .nonlocal _ _ => 1
  | .del _ ts => exprs aux ts + 1
  | .assert _ e m => max (expr aux e) (optional aux m) + 1
  | .import_ _ _ => aux + 1
  | .importFrom _ _ _ _ => aux + 1
  | .pass => 1
  | .break_ _ => 1
  | .continue_ _ => 1
  | .if_ e b o => max (expr aux e) (max (stmts b) (stmts o)) + 1
  | .while_ _ e b o => max (expr aux e) (max (stmts b) (stmts o)) + 1
  | .for_ _ t e b o => max (max (expr aux t) (expr aux e)) (max (stmts b) (stmts o)) + 1
  | .with_ _ is b => max (withItems is) (stmts b) + 1
  | .try_ _ b hs o f => max (max (stmts b) (handlers hs)) (max (stmts o) (stmts f)) + 1
  | .function _ ds _ ps r b =>
    max (max (aux + params aux ps) (stmts b)) (max (exprs aux (ds.map (·.2))) (optional aux r)) + 1
  | .class_ _ ds _ as b => max (arguments aux as) (max (exprs aux (ds.map (·.2))) (stmts b)) + 1
  | .unsupported _ _ => 1

def stmts : List Stmt → Nat
  | [] => 0
  | s :: ss => max (stmt s) (stmts ss)

def handlers : List Handler → Nat
  | [] => 0
  | .mk _ type _ b :: hs => max (aux + max (optional aux type) (stmts b)) (handlers hs)

def withItems : List (Expr × Option Expr) → Nat
  | [] => 0
  | (e, t) :: is => max (aux + max (expr aux e) (optional aux t)) (withItems is)

end

/-- The depth of a whole program. -/
def module (ss : List Stmt) : Nat := aux + stmts aux ss

end Depth

end ThaiScript.Program
