import ThaiScript.Program.Ast
import ThaiScript.Program.Flaw

/-!
# Scopes

What the statements of a body do to names, in order: use them, bind them, declare them. From this
come the local names of a function, and the flaws of declarations.
-/

namespace ThaiScript.Program

namespace Scope

inductive Event
  | use (name : Text)
  | bind (name : Text)
  | annotate (line : Nat) (name : Text)
  | global (line : Nat) (name : Text)
  | nonlocal (line : Nat) (name : Text)
  /-- Every public name of a module is bound. -/
  | bindAll (line : Nat)
  /-- What is done inside of a scope that stands here: that of a function, with parameters, or else
  that of a class. -/
  | inner (line : Nat) (params : Option (List Text)) (es : List Event)

def isStar : Expr → Bool
  | .star _ _ => true
  | _ => false

/-- A name that occurs again. -/
def repeated? : List Text → Option Text
  | [] => none
  | n :: ns => if n ∈ ns then some n else repeated? ns

/-- What a comprehension does to the names around it: it binds through `:=`. -/
def walrus (es : List Event) : List Event :=
  es.filter fun e =>
    match e with
    | .bind _ => true
    | _ => false

/-- The scope of a comprehension, and what it does around it. -/
def comprehension (line : Nat) (es : List Event) : List Event :=
  let binds := walrus es
  .inner line (some []) (es.filter fun e =>
    match e with
    | .bind _ => false
    | _ => true) :: binds

mutual

/-- What evaluating an expression does to names. -/
def expr : Expr → List Event
  | .const _ => []
  | .joined _ ps => formatParts ps
  | .name _ n => [.use n]
  | .tuple _ es => exprs es
  | .list _ es => exprs es
  | .set _ es => exprs es
  | .dict _ ds => dictItems ds
  | .star _ e => expr e
  | .named n e => expr e ++ [.bind n]
  | .conditional _ a b c => expr a ++ expr b ++ expr c
  | .anyOf _ es => exprs es
  | .allOf _ es => exprs es
  | .not _ e => expr e
  | .compare _ e cs => expr e ++ comparisons cs
  | .binary _ _ a b => expr a ++ expr b
  | .unary _ _ e => expr e
  | .member _ e _ => expr e
  | .call _ f as => expr f ++ arguments as
  | .subscript _ e i => expr e ++ expr i
  | .slice a b c => optional a ++ optional b ++ optional c
  | .comprehension line _ k v cs => outermost cs ++ comprehension line (clauses true cs ++ optional k ++ expr v)
  | .lambda line ps e => params ps ++ [.inner line (some (ps.map Param.name)) (expr e)]
  | .unsupported _ _ => []
  | .shared _ => []

def exprs : List Expr → List Event
  | [] => []
  | e :: es => expr e ++ exprs es

def optional : Option Expr → List Event
  | none => []
  | some e => expr e

def dictItems : List DictItem → List Event
  | [] => []
  | .pair k v :: ds => expr k ++ expr v ++ dictItems ds
  | .unpack e :: ds => expr e ++ dictItems ds

def comparisons : List Comparison → List Event
  | [] => []
  | .mk _ e :: cs => expr e ++ comparisons cs

def arguments : List Argument → List Event
  | [] => []
  | .positional e :: as => expr e ++ arguments as
  | .unpack e :: as => expr e ++ arguments as
  | .keyword _ e :: as => expr e ++ arguments as
  | .unpackKeywords e :: as => expr e ++ arguments as

/-- Only the first iterable of a comprehension is evaluated outside of it. -/
def outermost : List Clause → List Event
  | [] => []
  | .mk _ iter _ :: _ => expr iter

def clauses : (first : Bool) → List Clause → List Event
  | _, [] => []
  | first, .mk _ iter cs :: rest =>
    (if first then [] else expr iter) ++ exprs cs ++ clauses false rest

def formatParts : List FormatPart → List Event
  | [] => []
  | .text _ :: ps => formatParts ps
  | .value e _ spec :: ps => expr e ++ formatParts spec ++ formatParts ps

/-- The defaults and the annotations of parameters. -/
def params : List Param → List Event
  | [] => []
  | .mk _ _ d a :: ps => optional d ++ optional a ++ params ps

end

mutual

/-- What an assignment to a target does to names. -/
def target : Expr → List Event
  | .name _ n => [.bind n]
  | .tuple _ es => targets es
  | .list _ es => targets es
  | .star _ e => target e
  | .member _ e _ => expr e
  | .subscript _ e i => expr e ++ expr i
  | _ => []

def targets : List Expr → List Event
  | [] => []
  | e :: es => target e ++ targets es

end

def moduleName (m : List Text × Option Text) : Text := m.2.getD (m.1.head?.getD [])

mutual

/-- What a statement does to the names of the scope that it stands in. -/
def stmt : Stmt → List Event
  | .expr _ e => expr e
  | .assign _ ts v => targets ts ++ expr v
  | .annotate line (.name _ n) a v => .annotate line n :: expr a ++ optional v
  | .annotate _ t a v => target t ++ expr a ++ optional v
  | .augment _ t _ v => target t ++ expr v
  | .ret _ e => optional e
  | .raise _ e c => optional e ++ optional c
  | .global line ns => ns.map (.global line)
  | .nonlocal line ns => ns.map (.nonlocal line)
  | .del _ ts => targets ts
  | .assert _ e m => expr e ++ optional m
  | .import_ _ ms => ms.map fun m => .bind (moduleName m)
  | .importFrom line _ _ none => [.bindAll line]
  | .importFrom _ _ _ (some ns) => ns.map fun n => .bind (n.2.getD n.1)
  | .pass => []
  | .break_ _ => []
  | .continue_ _ => []
  | .if_ e b o => expr e ++ stmts b ++ stmts o
  | .while_ _ e b o => expr e ++ stmts b ++ stmts o
  | .for_ _ t e b o => target t ++ expr e ++ stmts b ++ stmts o
  | .with_ _ is b => withItems is ++ stmts b
  | .try_ _ b hs o f => stmts b ++ stmts o ++ handlers hs ++ stmts f
  | .function line ds n ps r b =>
    .bind n :: params ps ++ optional r ++ exprs (ds.map (·.2)) ++
      [.inner line (some (ps.map Param.name)) (stmts b)]
  | .class_ line ds n as b =>
    .bind n :: arguments as ++ exprs (ds.map (·.2)) ++ [.inner line none (stmts b)]
  | .unsupported _ _ => []

def stmts : List Stmt → List Event
  | [] => []
  | s :: ss => stmt s ++ stmts ss

def withItems : List (Expr × Option Expr) → List Event
  | [] => []
  | (e, none) :: is => expr e ++ withItems is
  | (e, some t) :: is => expr e ++ target t ++ withItems is

def handlers : List Handler → List Event
  | [] => []
  | .mk _ type n b :: hs => optional type ++ n.toList.map .bind ++ stmts b ++ handlers hs

end

/-! ### The names of a body -/

/-- The names that a body binds and does not declare otherwise. -/
def localNames (params : List Text) (es : List Event) : List Text :=
  let declared := es.filterMap fun e =>
    match e with
    | .global _ n | .nonlocal _ n => some n
    | _ => none
  let bound := params ++ es.filterMap fun e =>
    match e with
    | .bind n | .annotate _ n => some n
    | _ => none
  (bound.filter fun n => n ∉ declared).eraseDups

def globalNames (es : List Event) : List Text :=
  es.filterMap fun e =>
    match e with
    | .global _ n => some n
    | _ => none

/-! ### Flaws -/

/-- What was done to the names of a scope so far. -/
structure Seen where
  used : List Text
  bound : List Text
  annotated : List Text
  declared : List (Text × String)

/-- The flaw of a declaration of a name. -/
def lateFlaw? (params : List Text) (s : Seen) (n : Text) (declaration : String) : Option Flaw :=
  if n ∈ params then some (.declaredParameter n declaration)
  else if n ∈ s.used then some (.declaredLate n true declaration)
  else if n ∈ s.annotated then some (.declaredAnnotated n declaration)
  else if n ∈ s.bound then some (.declaredLate n false declaration)
  else none

/-- The first flaw that shows while names are met in order. -/
def metFlaw? (isModule : Bool) (params : List Text) : Seen → List Event → Option (Nat × Flaw)
  | _, [] => none
  | s, .use n :: es => metFlaw? isModule params { s with used := n :: s.used } es
  | s, .bind n :: es => metFlaw? isModule params { s with bound := n :: s.bound } es
  | s, .annotate line n :: es =>
    match s.declared.lookup n with
    | some d => if isModule then metFlaw? isModule params s es else some (line, .declaredAnnotated n d)
    | none => metFlaw? isModule params { s with annotated := n :: s.annotated } es
  | s, .global line n :: es =>
    match lateFlaw? params s n "global" with
    | some f => some (line, f)
    | none => metFlaw? isModule params { s with declared := (n, "global") :: s.declared } es
  | s, .nonlocal line n :: es =>
    match lateFlaw? params s n "nonlocal" with
    | some f => some (line, f)
    | none => metFlaw? isModule params { s with declared := (n, "nonlocal") :: s.declared } es
  | s, .bindAll line :: es =>
    if isModule then metFlaw? isModule params s es else some (line, .starImport)
  | s, .inner line ps inside :: es =>
    let ps := ps.getD []
    match repeated? ps with
    | some n => some (line, .duplicateParameter n)
    | none => metFlaw? false ps ⟨[], [], [], []⟩ inside <|> metFlaw? isModule params s es

/-- The first declaration of a name of a scope around that none of them binds. `around` are the names
that the functions around bind; a module has none around it. -/
def unbound? (isModule : Bool) (globals around : List Text) : List Event → Option (Nat × Flaw)
  | [] => none
  | .nonlocal line n :: es =>
    if n ∈ globals then some (line, .nonlocalAndGlobal n)
    else if isModule then some (line, .nonlocalAtModule)
    else if n ∈ around then unbound? isModule globals around es
    else some (line, .noBinding n)
  | _ :: es => unbound? isModule globals around es

/-- The same for the scopes inside. -/
def unboundInside? (around : List Text) : List Event → Option (Nat × Flaw)
  | [] => none
  | .inner _ ps inside :: es =>
    let known := match ps with
      | some ps => localNames ps inside ++ around
      | none => around
    unbound? false (globalNames inside) around inside <|> unboundInside? known inside <|>
      unboundInside? around es
  | _ :: es => unboundInside? around es

/-- The first flaw of the declarations of a module. -/
def flaw? (ss : List Stmt) : Option (Nat × Flaw) :=
  let es := stmts ss
  metFlaw? true [] ⟨[], [], [], []⟩ es <|> unbound? true (globalNames es) [] es <|> unboundInside? [] es

end Scope

end ThaiScript.Program
