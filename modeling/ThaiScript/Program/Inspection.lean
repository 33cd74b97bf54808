import ThaiScript.Program.Flaw
import ThaiScript.Program.Folding
import ThaiScript.Program.Scope

/-!
# Inspection

Before a program runs it is gone through once more, in the order in which its parts are put together:
the condition of a loop also behind its body, and a final block for each way into it. What is found are
warnings, and the flaw that keeps the program from running.
-/

namespace ThaiScript.Program

namespace Inspection

inductive Finding
  | warning (line : Nat) (w : Warning)
  | flaw (line : Nat) (f : Flaw)

/-! ### Expressions that always fail -/

/-- The type of the values of an expression, if its form tells it. -/
def typeOf? (e : Expr) : Option String :=
  match Folded.ofExpr? e with
  | some v => some v.typeName
  | none =>
    match e with
    | .tuple .. => some "tuple"
    | .shared (.tuple ..) => some "tuple"
    | .list .. => some "list"
    | .dict .. => some "dict"
    | .set .. => some "set"
    | .joined .. => some "str"
    | .lambda .. => some "function"
    | .comprehension _ .list _ _ _ => some "list"
    | .comprehension _ .set _ _ _ => some "set"
    | .comprehension _ .dict _ _ _ => some "dict"
    | .comprehension _ .generator _ _ _ => some "generator"
    | _ => none

def isLambda : Expr → Bool
  | .lambda .. => true
  | _ => false

def notCallable (line : Nat) (f : Expr) : List Finding :=
  match typeOf? f with
  | some t => if isLambda f then [] else [.warning line (.notCallable t)]
  | none => []

/-- The types whose values have no elements. -/
def bareTypes : List String :=
  ["NoneType", "ellipsis", "bool", "int", "float", "complex", "set", "generator", "function"]

/-- The types whose elements are found by integers. -/
def indexedTypes : List String := ["str", "bytes", "tuple", "list"]

def badSubscript (line : Nat) (e i : Expr) : List Finding :=
  match typeOf? e with
  | none => []
  | some t =>
    (if t ∈ bareTypes then [.warning line (.notSubscriptable t)] else []) ++
      match typeOf? i with
      | none => []
      | some index =>
        if t ∈ indexedTypes && index ≠ "int" && index ≠ "bool" then
          [.warning line (.badIndex t index)]
        else []

/-- Whether a value may be told by identity from others. -/
def isIdentifiable (e : Expr) : Bool := ((Folded.ofExpr? e).map Folded.isUnique).getD true

/-- Only the first comparison of a chain that tells a literal by identity counts. -/
def literalIdentity (line : Nat) : (left : Bool) → List Comparison → List Finding
  | _, [] => []
  | left, .mk op e :: cs =>
    let right := isIdentifiable e
    if left && right then literalIdentity line right cs
    else
      match op with
      | .isSame => [.warning line .sameAsLiteral]
      | .isNot => [.warning line .differentFromLiteral]
      | _ => literalIdentity line right cs

/-- A single comparison, turned around. -/
def negated : List Comparison → List Comparison
  | [.mk .isSame e] => [.mk .isNot e]
  | [.mk .isNot e] => [.mk .isSame e]
  | cs => cs

def alwaysTrue (line : Nat) (e : Expr) : List Finding :=
  match e with
  | .tuple _ (_ :: _) => [.warning line .alwaysTrue]
  | .shared (.tuple _ (_ :: _)) => [.warning line .alwaysTrue]
  | e =>
    match Folded.ofExpr? e with
    | some (.tuple (_ :: _)) => [.warning line .alwaysTrue]
    | _ => []

/-! ### Names -/

def debugName : Text := "__debug__"

def bound (line : Nat) (n : Text) : List Finding :=
  if n = debugName then [.flaw line .debugTarget] else []

def keywordNames (args : List Argument) : List Text :=
  args.filterMap fun a =>
    match a with
    | .keyword n _ => some n
    | _ => none

def badKeywords (line : Nat) (args : List Argument) : List Finding :=
  let ns := keywordNames args
  ns.flatMap (bound line) ++
    match Scope.repeated? ns with
    | some n => [.flaw line (.repeatedKeyword n)]
    | none => []

/-- Where something cannot be awaited or yielded. -/
def misplaced (inFunction : Bool) (line : Nat) (what : String) : List Finding :=
  if what = "yield" && !inFunction then [.flaw line (.outsideFunction what)]
  else if what = "await" then
    [.flaw line (if inFunction then .outsideAsync what else .outsideFunction what)]
  else []

/-! ### Expressions -/

mutual

/-- What is found in an expression. It may answer or await only inside of a function. -/
def expr (inFunction : Bool) : Expr → List Finding
  | .const _ => []
  | .joined _ ps => formatParts inFunction ps
  | .name _ _ => []
  | .tuple _ es => items inFunction es
  | .list _ es => items inFunction es
  | .set _ es => items inFunction es
  | .dict _ ds => dictItems inFunction ds
  | .star line _ => [.flaw line .starredHere]
  | .named n e => expr inFunction e ++ bound 1 n
  | .conditional _ a b c => expr inFunction a ++ expr inFunction b ++ expr inFunction c
  | .anyOf _ es => exprs inFunction es
  | .allOf _ es => exprs inFunction es
  | .not _ (.compare line e cs) =>
    literalIdentity line (isIdentifiable e) (negated cs) ++ expr inFunction e ++
      comparisons inFunction cs
  | .not _ e => expr inFunction e
  | .compare line e cs =>
    literalIdentity line (isIdentifiable e) cs ++ expr inFunction e ++ comparisons inFunction cs
  | .binary _ _ a b => expr inFunction a ++ expr inFunction b
  | .unary _ _ e => expr inFunction e
  | .member _ e _ => expr inFunction e
  | .call line f as =>
    badKeywords line as ++ notCallable line f ++ expr inFunction f ++ arguments inFunction as
  | .subscript line e i => badSubscript line e i ++ expr inFunction e ++ expr inFunction i
  | .slice a b c => optional inFunction a ++ optional inFunction b ++ optional inFunction c
  | .comprehension _ _ k v cs =>
    clauses inFunction true cs ++ optional inFunction k ++ expr inFunction v ++
      outermost inFunction cs
  | .lambda line ps e =>
    ps.flatMap (fun p => bound line p.name) ++ defaults inFunction ps ++ expr true e
  | .unsupported line what => misplaced inFunction line what
  | .shared e => if (Folded.ofExpr? e).isSome then [] else expr inFunction e

def exprs (inFunction : Bool) : List Expr → List Finding
  | [] => []
  | e :: es => expr inFunction e ++ exprs inFunction es

/-- The elements of a display, which may be starred. -/
def items (inFunction : Bool) : List Expr → List Finding
  | [] => []
  | .star _ e :: es => expr inFunction e ++ items inFunction es
  | e :: es => expr inFunction e ++ items inFunction es

def optional (inFunction : Bool) : Option Expr → List Finding
  | none => []
  | some e => expr inFunction e

def dictItems (inFunction : Bool) : List DictItem → List Finding
  | [] => []
  | .pair k v :: ds => expr inFunction k ++ expr inFunction v ++ dictItems inFunction ds
  | .unpack e :: ds => expr inFunction e ++ dictItems inFunction ds

def comparisons (inFunction : Bool) : List Comparison → List Finding
  | [] => []
  | .mk _ e :: cs => expr inFunction e ++ comparisons inFunction cs

def arguments (inFunction : Bool) : List Argument → List Finding
  | [] => []
  | .positional e :: as => expr inFunction e ++ arguments inFunction as
  | .unpack e :: as => expr inFunction e ++ arguments inFunction as
  | .keyword _ e :: as => expr inFunction e ++ arguments inFunction as
  | .unpackKeywords e :: as => expr inFunction e ++ arguments inFunction as

/-- The first iterable of a comprehension is found last. -/
def outermost (inFunction : Bool) : List Clause → List Finding
  | [] => []
  | .mk _ iter _ :: _ => expr inFunction iter

def clauses (inFunction : Bool) : (first : Bool) → List Clause → List Finding
  | _, [] => []
  | first, .mk t iter cs :: rest =>
    (if first then [] else expr inFunction iter) ++ target inFunction t ++ exprs inFunction cs ++
      clauses inFunction false rest

def formatParts (inFunction : Bool) : List FormatPart → List Finding
  | [] => []
  | .text _ :: ps => formatParts inFunction ps
  | .value e _ spec :: ps =>
    expr inFunction e ++ formatParts inFunction spec ++ formatParts inFunction ps

def defaults (inFunction : Bool) : List Param → List Finding
  | [] => []
  | .mk _ _ d _ :: ps => optional inFunction d ++ defaults inFunction ps

def target (inFunction : Bool) : Expr → List Finding
  | .name line n => bound line n
  | .tuple line es => badStars line es ++ targets inFunction es
  | .list line es => badStars line es ++ targets inFunction es
  | .star line _ => [.flaw line .starredTarget]
  | .member line e n => expr inFunction e ++ bound line n
  | .subscript _ e i => expr inFunction e ++ expr inFunction i
  | _ => []

/-- The targets in a display, which may be starred. -/
def targets (inFunction : Bool) : List Expr → List Finding
  | [] => []
  | .star _ e :: es => target inFunction e ++ targets inFunction es
  | e :: es => target inFunction e ++ targets inFunction es

/-- At most one of several targets takes what is left over, and not far from the first. -/
def badStars (line : Nat) (es : List Expr) : List Finding :=
  match es.findIdx? Scope.isStar with
  | none => []
  | some i =>
    if 256 ≤ i then [.flaw line .manyStarTargets]
    else if (es.drop (i + 1)).any Scope.isStar then [.flaw line .severalStarred]
    else []

end

/-- What is found in a target that is unbound. -/
def deletion (inFunction : Bool) : Expr → List Finding
  | .name line n => if n = debugName then [.flaw line .debugDeletion] else []
  | e => target inFunction e

/-! ### Statements -/

/-- A block around a statement. A final block is gone through again wherever the statement leaves it;
`again` tells what is found then, while an answer is held or not. -/
inductive Block
  | loop
  | final (again : (held : Bool) → List Finding)
  | other

/-- Where a statement stands: the blocks around it, the nearest first. -/
structure Site where
  inFunction : Bool
  blocks : List Block

/-- The number of blocks that may stand in each other. -/
def maxBlocks : Nat := 20

/-- What is found inside of one more block. -/
def Site.enter (s : Site) (line : Nat) (b : Block) (inside : Site → List Finding) : List Finding :=
  if maxBlocks ≤ s.blocks.length then [.flaw line .manyBlocks]
  else inside { s with blocks := b :: s.blocks }

/-- What is found on the way out of all blocks. -/
def leaveAll (held : Bool) : List Block → List Finding
  | [] => []
  | .final again :: bs => again held ++ leaveAll held bs
  | _ :: bs => leaveAll held bs

/-- What is found on the way out of a loop. -/
def leaveLoop (line : Nat) (what : String) : List Block → List Finding
  | [] => [.flaw line (.outsideLoop what)]
  | .loop :: _ => []
  | .final again :: bs => again false ++ leaveLoop line what bs
  | .other :: bs => leaveLoop line what bs

/-- Whether an answer has to be held while final blocks run. -/
def isHeld (e : Option Expr) : Bool :=
  match e with
  | some e => (Folded.ofExpr? e).isNone
  | none => false

/-- What is found in managed blocks in each other. -/
def withItems (line : Nat) : Site → List (Expr × Option Expr) → (Site → List Finding) →
    List Finding
  | s, [], inside => inside s
  | s, (e, t) :: is, inside =>
    expr s.inFunction e ++ s.enter line .other fun s =>
      (match t with
        | some t => target s.inFunction t
        | none => []) ++ withItems line s is inside

mutual

def stmt (s : Site) : Stmt → List Finding
  | .expr _ e => if (Folded.ofExpr? e).isSome then [] else expr s.inFunction e
  | .assign _ ts v => expr s.inFunction v ++ ts.flatMap (target s.inFunction)
  | .annotate _ t a v =>
    (match v with
      | some v => expr s.inFunction v ++ target s.inFunction t
      | none => match t with
        | .name line n => bound line n
        | .member line _ n => bound line n
        | _ => []) ++
      if s.inFunction then [] else expr s.inFunction a
  | .augment _ t _ v =>
    match t with
    | .name line n => expr s.inFunction v ++ bound line n
    | t => target s.inFunction t ++ expr s.inFunction v
  | .ret line e =>
    if s.inFunction then optional s.inFunction e ++ leaveAll (isHeld e) s.blocks
    else [.flaw line (.outsideFunction "return")]
  | .raise _ e c => optional s.inFunction e ++ optional s.inFunction c
  | .global _ _ => []
  | .nonlocal _ _ => []
  | .del _ ts => ts.flatMap (deletion s.inFunction)
  | .assert line e m => alwaysTrue line e ++ expr s.inFunction e ++ optional s.inFunction m
  | .import_ line ms => ms.flatMap fun m => bound line (Scope.moduleName m)
  | .importFrom line _ _ ns => (ns.getD []).flatMap fun n => bound line (n.2.getD n.1)
  | .pass => []
  | .break_ line => leaveLoop line "break" s.blocks
  | .continue_ line => leaveLoop line "continue" s.blocks
  | .if_ e b o => expr s.inFunction e ++ stmts s b ++ stmts s o
  | .while_ line e b o =>
    s.enter line .loop (fun s => expr s.inFunction e ++ stmts s b ++ expr s.inFunction e) ++ stmts s o
  | .for_ line t e b o =>
    s.enter line .loop (fun s => expr s.inFunction e ++ target s.inFunction t ++ stmts s b) ++
      stmts s o
  | .with_ line is b => withItems line s is fun s => stmts s b
  | .try_ line b hs o f =>
    let main (s : Site) : List Finding :=
      if hs.isEmpty then stmts s b
      else
        s.enter line .other (fun s => stmts s b) ++ stmts s o ++
          s.enter line .other fun s => handlers s hs
    if f.isEmpty then main s
    else
      let again (held : Bool) : List Finding :=
        if held then s.enter line .other fun s => stmts s f else stmts s f
      s.enter line (.final again) main ++ stmts s f ++ s.enter line .other fun s => stmts s f
  | .function line ds n ps r b =>
    ps.flatMap (fun p => bound line p.name) ++ exprs s.inFunction (ds.map (·.2)) ++
      defaults s.inFunction ps ++ ps.flatMap (fun p => optional s.inFunction p.annotation?) ++
      optional s.inFunction r ++ stmts ⟨true, []⟩ b ++ bound line n
  | .class_ line ds n as b =>
    exprs s.inFunction (ds.map (·.2)) ++ stmts ⟨false, []⟩ b ++ badKeywords line as ++
      arguments s.inFunction as ++ bound line n
  | .unsupported _ _ => []

def stmts (s : Site) : List Stmt → List Finding
  | [] => []
  | x :: xs => stmt s x ++ stmts s xs

def handlers (s : Site) : List Handler → List Finding
  | [] => []
  | .mk line type n b :: hs =>
    (if type.isNone && !hs.isEmpty then [.flaw line .earlyDefault] else []) ++
      optional s.inFunction type ++ n.toList.flatMap (bound line) ++
      s.enter line .other (fun s => stmts s b) ++ handlers s hs

end

/-- What is found in a module. -/
def module (ss : List Stmt) : List Finding := stmts ⟨false, []⟩ ss

end Inspection

end ThaiScript.Program
