import ThaiScript.Machine.Class
import ThaiScript.Machine.Complex
import ThaiScript.Machine.HashTable
import ThaiScript.Machine.OrderedTable
import ThaiScript.Namespace
import ThaiScript.Program.Ast

/-!
# Values and objects

A value is either given by its content or refers to an object of the heap. Objects are what programs
can change, and what has an identity of its own.
-/

namespace ThaiScript.Machine

open Program

abbrev Ref := Nat

inductive ClassId
  | builtin (c : BuiltinClass)
  | user (r : Ref)
deriving DecidableEq, Repr, Inhabited

namespace ClassId

abbrev core (c : CoreClass) : ClassId := .builtin (.core c)

abbrev exception (c : ExceptionClass) : ClassId := .builtin (.exception c)

end ClassId

/-- What tells values of one content apart. -/
inductive Identity
  /-- A value that an operation just made and that no program has got hold of. -/
  | new
  /-- A value that is the same wherever its content occurs. -/
  | shared
  /-- One of the values of its content, which is only the same as itself. -/
  | own (number : Nat)
deriving DecidableEq, Repr, Inhabited

/-- Whether values of one content are the same. -/
def Identity.agrees : Identity → Identity → Bool
  | own m, own n => m == n
  | own _, _ => false
  | _, own _ => false
  | _, _ => true

inductive Value
  | none
  | ellipsis
  | notImplemented
  | bool (b : Bool)
  | int (n : Int) (id : Identity := .new)
  | float (x : Float) (id : Identity := .new)
  | complex (z : Complex) (id : Identity := .new)
  | str (p : Points) (id : Identity := .new)
  | bytes (bs : List Nat) (id : Identity := .new)
  | tuple (vs : List Value) (id : Identity := .new)
  | slice (start stop step : Value)
  | range (start stop step : Int)
  | cls (c : ClassId)
  /-- A function that every program finds. -/
  | builtin (name : String)
  /-- A method of a builtin class, not bound to a value. -/
  | member (c : BuiltinClass) (name : String)
  /-- A method of a builtin class, bound to a value. -/
  | bound (self : Value) (c : BuiltinClass) (name : String)
  /-- A function of a program, bound to its first argument. -/
  | method (f self : Value)
  /-- A function with some of its arguments. -/
  | partialCall (f : Value) (args : List Value) (keywords : List (Text × Value))
  | ref (r : Ref)
deriving Inhabited

namespace Value

def ofText (t : Text) : Value := .str t.points

def ofString (s : String) : Value := .ofText s.toList

/-- A value that is the same wherever its content occurs. -/
def shared : Value → Value
  | .int n _ => .int n .shared
  | .float x _ => .float x .shared
  | .complex z _ => .complex z .shared
  | .str p _ => .str p .shared
  | .bytes bs _ => .bytes bs .shared
  | .tuple vs _ => .tuple vs .shared
  | v => v

mutual

/-- Whether two values are the same. -/
def same : Value → Value → Bool
  | none, none => true
  | ellipsis, ellipsis => true
  | notImplemented, notImplemented => true
  | bool a, bool b => a == b
  | int a i, int b j => i.agrees j && a == b
  | float a i, float b j => i.agrees j && a.toBits == b.toBits
  | complex a i, complex b j => i.agrees j && a.identical b
  | str a i, str b j => i.agrees j && a == b
  | bytes a i, bytes b j => i.agrees j && a == b
  | tuple as i, tuple bs j => i.agrees j && sameAll as bs
  | slice a b c, slice d e f => same a d && same b e && same c f
  | range a b c, range d e f => a == d && b == e && c == f
  | cls a, cls b => a == b
  | builtin a, builtin b => a == b
  | member c a, member d b => c == d && a == b
  | bound v c a, bound w d b => same v w && c == d && a == b
  | method f v, method g w => same f g && same v w
  | partialCall f as ks, partialCall g bs ls => same f g && sameAll as bs && sameKeywords ks ls
  | ref a, ref b => a == b
  | _, _ => false

def sameAll : List Value → List Value → Bool
  | [], [] => true
  | a :: as, b :: bs => same a b && sameAll as bs
  | _, _ => false

def sameKeywords : List (Text × Value) → List (Text × Value) → Bool
  | [], [] => true
  | (k, a) :: as, (l, b) :: bs => k == l && same a b && sameKeywords as bs
  | _, _ => false

end

end Value

/-- Whether a key is the string of a text. -/
def spells : Points → Text → Bool
  | [], [] => true
  | n :: p, c :: t => n == c.toNat && spells p t
  | _, _ => false

/-- The hash that a string is filed under. -/
def hashOfPoints (p : Points) : Nat :=
  (p.foldl (fun (h : UInt64) n => h * 1000003 + UInt64.ofNat n) 7).toNat / 8

/-- What `hashOfPoints` makes of the points of a text. -/
def hashOfText (t : Text) : Nat :=
  (t.foldl (fun (h : UInt64) c => h * 1000003 + UInt64.ofNat c.toNat) 7).toNat / 8

/-- The entries of a dictionary. -/
abbrev Entries := OrderedTable Value Value

namespace Entries

/-- The place of the key that is the string of a text. -/
def position? (es : Entries) (name : Text) : Option Nat :=
  Id.run (es.find? (hashOfText name) fun k => pure (match k with
    | .str p _ => spells p name
    | _ => false))

/-- The value of a name. -/
def value? (es : Entries) (name : Text) : Option Value :=
  match es.position? name with
  | some i => (es.get? i).map (·.value)
  | none => none

def set (es : Entries) (name : Text) (v : Value) : Entries :=
  match es.position? name with
  | some i => es.setValue i v
  | none => es.push ⟨hashOfText name, .ofText name, v⟩

def erase (es : Entries) (name : Text) : Entries :=
  match es.position? name with
  | some i => es.eraseAt i
  | none => es

/-- The entries whose keys are strings that stand for a text, as a dictionary of names. -/
def names (es : Entries) : Dictionary Value :=
  es.toList.filterMap fun e =>
    match e.1 with
    | .str p _ => if p.hasSurrogate then none else some (p.lossy, e.2)
    | _ => none

def ofNames (d : Dictionary Value) : Entries :=
  OrderedTable.ofEntries (d.map fun e => ⟨hashOfText e.1, .ofText e.1, e.2⟩)

end Entries

structure Parameter where
  name : Text
  kind : ParamKind
  default? : Option Value

inductive Body
  | block (statements : List Stmt)
  | value (e : Expr)

structure Function where
  name : Text
  qualname : Text
  params : List Parameter
  body : Body
  localNames : List Text
  globalNames : List Text
  globals : Ref
  /-- The scopes around the function, nearest first. -/
  enclosing : List Ref
  /-- The class in whose body the function stands. -/
  owner : Option Ref
  attrs : Dictionary Value

structure UserClass where
  name : Text
  qualname : Text
  module : Text
  bases : List ClassId
  /-- The class and its ancestors, in the order in which attributes are looked up. -/
  order : List ClassId
  attrs : Dictionary Value

/-- A place in a program through which an exception went: the line and the name of the body, and the
names that could be used there. -/
structure TraceEntry where
  line : Nat
  frame : Text
  names : List Text
  globals : Ref
deriving DecidableEq, Repr

structure ExceptionObject where
  cls : ClassId
  /-- The nearest builtin class. -/
  kind : ExceptionClass
  args : List Value
  /-- Attributes that every exception of its kind has. -/
  slots : Dictionary Value
  attrs : Dictionary Value
  cause : Option Ref
  context : Option Ref
  suppressContext : Bool
  trace : List TraceEntry

/-- Which part of its entries a view of a dictionary shows. -/
inductive ViewKind
  | keys
  | values
  | items
deriving DecidableEq, Repr

/-- Where the names of a running body are bound. -/
inductive Place
  | globals
  /-- The dictionary of a class body. -/
  | classBody (r : Ref)
  /-- The variables of a function. -/
  | scope (r : Ref)

/-- A body that is running. -/
structure Frame where
  /-- The name that tracebacks show. -/
  name : Text
  /-- What stands before the names of the functions and classes that are defined in the body. -/
  qualifier : Text
  place : Place
  globals : Ref
  /-- The names of a function's own variables and of those around it that it uses. -/
  names : List Text
  globalNames : List Text
  enclosing : List Ref
  owner : Option Ref
  first : Option Value
  /-- Whether so many bodies run around it that calls of some builtins are taken without a level of
  their own. -/
  settled : Bool

/-- A generator: the loops of a comprehension, of which the outermost are under way. -/
structure Generator where
  frame : Frame
  line : Nat
  qualname : Text
  clauses : List Clause
  value : Expr
  /-- What the loops that are under way run over, innermost first. -/
  sources : List Value

inductive Iterator
  /-- Values that are there already; the iterator is of the class of the given name. -/
  | values (className : String) (vs : List Value)
  | list (r : Ref) (next : Nat)
  /-- The entries of a dictionary from a place on, of which at most `left` are given, while the
  dictionary keeps its size: `none` once it did not. -/
  | entries (kind : ViewKind) (r : Ref) (next : Nat) (size : Option Nat) (left : Nat)
  /-- The members of a set that are left, while the set keeps its size. -/
  | members (vs : List Value) (r : Ref) (size : Nat)
  | range (next stop step : Int)
  | counted (n : Int) (it : Value)
  | zipped (its : List Value)
  | mapped (f : Value) (its : List Value)
  | filtered (f it : Value)
  /-- Calls a function until it answers the sentinel. -/
  | called (f sentinel : Value)
  /-- Asks for the items at 0, 1, … until there is none. -/
  | indexed (v : Value) (next : Nat)
  | generated (g : Generator)
  /-- A generator that is giving an item. -/
  | running (qualname : Text)
  | finished (qualname : Text)
  | done (className : String)

inductive Object
  | list (items : Array Value)
  | dict (entries : Entries)
  | set (members : HashTable Value) (frozen : Bool)
  | function (f : Function)
  | cls (c : UserClass)
  /-- An instance of a class of the program, with the value of a builtin class that it stands for. -/
  | instance_ (cls : ClassId) (attrs : Dictionary Value) (content : Option Value)
  | exception (e : ExceptionObject)
  | iterator (it : Iterator)
  | view (kind : ViewKind) (dict : Ref)
  | module (name : Text) (attrs : Ref)
  /-- A buffer of text, the latest writing first, and where the next writing goes if not to the end. -/
  | buffer (chunks : List Points) (position : Option Nat) (closed : Bool)
  /-- A stream of the process. -/
  | stream (isError closed : Bool)
  /-- A file that is open for reading, with the lines that are left. -/
  | file (name : Text) (lines : List Points) (closed : Bool)
  | property (get set delete : Option Value)
  | staticMethod (f : Value)
  | classMethod (f : Value)
  | super (after : ClassId) (self : Value) (cls : ClassId)
  | quitter (name : Text)
  /-- The variables of a running function; one without a value is not bound yet. -/
  | scope (slots : Array (Text × Option Value))
  | plain

instance : Inhabited Object := ⟨.plain⟩

end ThaiScript.Machine
