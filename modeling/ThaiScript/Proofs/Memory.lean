import ThaiScript.Proofs.Attempts
import ThaiScript.Text.Points

/-!
# Scripts and memory

An interpreter of which the state can be seen: dictionaries and buffers are kept at addresses, and
the first dictionary is that of the builtins, which all runs share. What a text does when it runs is
a script: a tree of what it does to the names of its globals, to the streams and to its buffer, with
a branch for everything that it may be told. A script knows values by their names, so that it cannot
tell at which address its buffer is kept.
-/

namespace ThaiScript

variable {A A' B V W : Type}

/-! ## Names -/

namespace Dictionary

/-- The same names, with other values. -/
def mapValues (f : V → W) (d : Dictionary V) : Dictionary W := d.map fun e => (e.1, f e.2)

def remove (d : Dictionary V) (name : Text) : Dictionary V := d.filter fun e => e.1 ≠ name

theorem find?_mapValues (f : V → W) (d : Dictionary V) (name : Text) :
    (d.mapValues f).find? name = (d.find? name).map f := by
  induction d with
  | nil => rfl
  | cons e d ih =>
    obtain ⟨n, v⟩ := e
    simp only [mapValues, find?, List.map_cons, List.lookup_cons] at ih ⊢
    cases name == n with
    | true => rfl
    | false => exact ih

theorem set_mapValues (f : V → W) (d : Dictionary V) (name : Text) (v : V) :
    (d.mapValues f).set name (f v) = (d.set name v).mapValues f := by
  induction d with
  | nil => rfl
  | cons e d ih =>
    simp only [mapValues, List.map_cons, set] at ih ⊢
    split
    · rfl
    · rw [ih, List.map_cons]

theorem remove_mapValues (f : V → W) (d : Dictionary V) (name : Text) :
    (d.mapValues f).remove name = (d.remove name).mapValues f := by
  simp only [mapValues, remove, List.filter_map]
  rfl

end Dictionary

/-! ## Memory -/

/-- A value: one that every run can have, a buffer, or a function that is bound to a buffer. Buffers
are told apart by an `A`. -/
inductive Item (B A : Type)
  | plain (v : B)
  | buffer (a : A)
  | bound (v : B) (a : A)
deriving DecidableEq, Repr

def Item.map (f : A → A') : Item B A → Item B A'
  | plain v => plain v
  | buffer a => buffer (f a)
  | bound v a => bound v (f a)

theorem Item.map_map {A'' : Type} (f : A → A') (g : A' → A'') (x : Item B A) :
    (x.map f).map g = x.map (g ∘ f) := by
  cases x <;> rfl

/-- A value as a script sees it, which cannot tell buffers apart. -/
def Item.view (x : Item B A) : Item B Unit := x.map fun _ => ()

/-- Binds a function to a buffer. -/
def Item.bind : Item B A → Item B A → Item B A
  | plain v, buffer a => bound v a
  | f, _ => f

theorem Item.map_bind (f : A → A') (x y : Item B A) :
    (x.bind y).map f = (x.map f).bind (y.map f) := by
  cases x <;> cases y <;> rfl

/-- A value whose buffer, if it has one, is kept at `b`. -/
def Item.keptAt (b : Address) : Item B Unit → Item B Address := Item.map fun _ => b

theorem Item.view_keptAt (b : Address) (x : Item B Unit) : (x.keptAt b).view = x.view :=
  x.map_map _ _

structure Memory (B : Type) where
  builtins : Dictionary (Item B Address)
  /-- The other dictionaries. -/
  others : List (Dictionary (Item B Address))
  /-- What is in the buffers, or nothing once a buffer is closed. -/
  buffers : List (Option Points)

namespace Memory

variable (m : Memory B) (a b : Address) (d : Dictionary (Item B Address))

/-- The memory before any run. -/
def start (d : Dictionary B) : Memory B := ⟨d.mapValues .plain, [], []⟩

/-- The dictionary at an address. That of the builtins comes first. -/
def dictionary : Address → Dictionary (Item B Address)
  | 0 => m.builtins
  | a + 1 => m.others.getD a []

/-- The address of the next dictionary. -/
def next : Address := m.others.length + 1

/-- Keeps a dictionary at the next address. -/
def place : Memory B := { m with others := m.others ++ [d] }

/-- Changes the dictionary at an address. -/
def change (f : Dictionary (Item B Address) → Dictionary (Item B Address)) : Address → Memory B
  | 0 => { m with builtins := f m.builtins }
  | a + 1 => { m with others := m.others.modify a f }

/-- What is in a buffer, unless it is closed. -/
def contents : Option Points := m.buffers[b]?.join

def placeBuffer : Memory B := { m with buffers := m.buffers ++ [some []] }

/-- Changes an open buffer, or closes it. -/
def changeBuffer (f : Points → Option Points) : Memory B :=
  { m with buffers := m.buffers.modify b (·.bind f) }

/-- A dictionary that a run has for itself: it is there, and it is not that of the builtins. -/
structure Owned (a : Address) (c : Dictionary (Item B Address)) : Prop where
  ne : a ≠ 0
  lt : a < m.next
  dictionary : m.dictionary a = c

theorem owned_place : (m.place d).Owned m.next d where
  ne := Nat.succ_ne_zero _
  lt := by simp [next, place]
  dictionary := by simp [next, place, dictionary]

section
variable {m a} {c : Dictionary (Item B Address)} (h : m.Owned a c)
  (f : Dictionary (Item B Address) → Dictionary (Item B Address))
include h

theorem Owned.change : (m.change f a).Owned a (f c) := by
  obtain ⟨hne, hlt, rfl⟩ := h
  obtain ⟨a, rfl⟩ := Nat.exists_eq_succ_of_ne_zero hne
  have hlt : a < m.others.length := Nat.lt_of_succ_lt_succ hlt
  refine ⟨hne, by simpa [next, Memory.change] using hlt, ?_⟩
  simp [Memory.change, Memory.dictionary, List.getElem?_eq_getElem hlt]

theorem Owned.builtins_change : (m.change f a).builtins = m.builtins := by
  obtain ⟨a, rfl⟩ := Nat.exists_eq_succ_of_ne_zero h.ne
  rfl

theorem Owned.buffers_change : (m.change f a).buffers = m.buffers := by
  obtain ⟨a, rfl⟩ := Nat.exists_eq_succ_of_ne_zero h.ne
  rfl

end

theorem contents_placeBuffer : m.placeBuffer.contents m.buffers.length = some [] := by
  simp [placeBuffer, contents]

theorem contents_of_length_le {m : Memory B} {b : Address} (h : m.buffers.length ≤ b) :
    m.contents b = none := by
  simp [contents, List.getElem?_eq_none h]

theorem contents_changeBuffer (f : Points → Option Points) :
    (m.changeBuffer b f).contents b = (m.contents b).bind f := by
  simp only [changeBuffer, contents, List.getElem?_modify, if_pos]
  cases m.buffers[b]? <;> rfl

end Memory

/-! ## Scripts -/

/-- Where a name is looked up. -/
inductive Scope
  | globals
  | builtins
deriving DecidableEq, Repr

/-- Why a call writes nothing. -/
inductive Refusal
  | unbound
  | notPrint
  | closed
  | unencodable
deriving DecidableEq, Repr

def Raised.map (f : V → W) (r : Raised V) : Raised W := ⟨r.category, r.text, f r.exception⟩

def Ending.map (f : V → W) : Ending V → Ending W
  | completed => completed
  | exited code => exited code
  | raised r => raised (r.map f)

theorem Ending.outcome_map (f : V → W) (ending : Ending V) (l : Language) :
    (ending.map f).outcome l = ending.outcome l := by
  cases ending <;> rfl

/-- What a text does when it runs. -/
inductive Script (B : Type)
  | finish (ending : Ending B)
  /-- Binds a name of the globals to a value. -/
  | bind (name : Text) (v : B) (next : Script B)
  /-- Binds a name of the globals to the value of another name, if that has one. -/
  | copy (name : Text) (scope : Scope) (source : Text) (next : Bool → Script B)
  /-- Takes a name out of the globals, if it is there. -/
  | delete (name : Text) (next : Bool → Script B)
  /-- Looks at the value of a name. -/
  | look (scope : Scope) (name : Text) (next : Option (Item B Unit) → Script B)
  /-- Calls the value of a name with something to print. -/
  | print (scope : Scope) (name : Text) (p : Points) (next : Option Refusal → Script B)
  /-- Closes the buffer that the value of a name is or is bound to. -/
  | close (scope : Scope) (name : Text) (next : Script B)
  /-- Writes to a stream. -/
  | write (isError : Bool) (t : Text) (next : Script B)

namespace World

variable (w : World (Memory B)) (g : Address)

def changeMachine (f : Memory B → Memory B) : World (Memory B) := { w with machine := f w.machine }

def writeTo (isError : Bool) (t : Text) : World (Memory B) :=
  if isError then { w with console := { w.console with err := w.console.err.writeLines t } }
  else { w with console := { w.console with out := w.console.out.write t } }

/-- The value of a name, for a run of which the globals are at `g`. -/
def valueOf? (scope : Scope) (name : Text) : Option (Item B Address) :=
  match scope with
  | .globals => (w.machine.dictionary g).find? name
  | .builtins => w.machine.builtins.find? name

/-- Calls a value with something to print. A function that is bound to no buffer writes to the
output stream. -/
def call (isPrint : B → Bool) (p : Points) : Option (Item B Address) →
    Option Refusal × World (Memory B)
  | none => (some .unbound, w)
  | some (.buffer _) => (some .notPrint, w)
  | some (.plain v) =>
    if isPrint v then
      if p.hasSurrogate then (some .unencodable, w) else (none, w.writeTo false p.lossy)
    else (some .notPrint, w)
  | some (.bound v b) =>
    if isPrint v then
      if (w.machine.contents b).isSome then
        (none, w.changeMachine (·.changeBuffer b fun q => some (q ++ p)))
      else (some .closed, w)
    else (some .notPrint, w)

/-- Closes the buffer that a value is or is bound to. -/
def closeBuffer : Option (Item B Address) → World (Memory B)
  | some (.buffer b) | some (.bound _ b) => w.changeMachine (·.changeBuffer b fun _ => none)
  | _ => w

/-- A call changes no dictionary. -/
theorem dictionary_call (isPrint : B → Bool) (p : Points) (x : Option (Item B Address))
    (a : Address) : (w.call isPrint p x).2.machine.dictionary a = w.machine.dictionary a := by
  match x with
  | none => rfl
  | some (.buffer _) => rfl
  | some (.plain v) =>
    simp only [call]
    cases isPrint v <;> cases p.hasSurrogate <;> rfl
  | some (.bound v b) =>
    simp only [call]
    cases isPrint v <;> cases (w.machine.contents b).isSome <;> cases a <;> rfl

end World

/-- Runs a script of which the globals are at `g`. -/
def Script.run (isPrint : B → Bool) (g : Address) :
    Script B → World (Memory B) → Ending (Item B Address) × World (Memory B)
  | finish ending, w => (ending.map .plain, w)
  | bind name v next, w => next.run isPrint g (w.changeMachine (·.change (·.set name (.plain v)) g))
  | copy name scope source next, w =>
    match w.valueOf? g scope source with
    | some v => (next true).run isPrint g (w.changeMachine (·.change (·.set name v) g))
    | none => (next false).run isPrint g w
  | delete name next, w =>
    (next (w.valueOf? g .globals name).isSome).run isPrint g
      (w.changeMachine (·.change (·.remove name) g))
  | look scope name next, w =>
    (next ((w.valueOf? g scope name).map Item.view)).run isPrint g w
  | print scope name p next, w =>
    let (refusal, w) := w.call isPrint p (w.valueOf? g scope name)
    (next refusal).run isPrint g w
  | close scope name next, w => next.run isPrint g (w.closeBuffer (w.valueOf? g scope name))
  | write isError t next, w => next.run isPrint g (w.writeTo isError t)

/-! ## The interpreter -/

/-- What can differ between interpreters that run scripts. -/
structure Scripted (B : Type) where
  parse : Text → Verdict
  /-- What a text does when it runs. -/
  script : Text → Script B
  isPrint : B → Bool
  builtinsModule : B
  ofText : Text → B
  /-- What the function that the builtins hold for this answers for a name that they do not have. It
  changes nothing, as only scripts do. -/
  hook : Item B Unit → Text → Except (Raised B) B
  missing : Text → Raised B
  /-- What binds functions to buffers. -/
  binder : B
  /-- Why the module of the builtins, of buffers, and of bound functions cannot be imported. -/
  noBuiltins : Option (Raised B)
  noBuffers : Option (Raised B)
  noBinding : Option (Raised B)
  /-- Why a value cannot be bound to a buffer. -/
  unbindable : B → Option (Raised B)
  /-- What is raised when a buffer that is closed is read. -/
  closed : Raised B
  /-- What is raised when a buffer holds what no text stands for. -/
  unencodable : Points → Raised B
  /-- What is written about an exception of which the traceback is asked for. -/
  traceback : Raised (Item B Address) → Text

namespace Scripted

variable (h : Scripted B)

/-- Gives an answer or raises an exception, and changes nothing. -/
def answer {α : Type} (x : Except (Raised B) α) : Operation (Memory B) (Item B Address) α :=
  fun w =>
    match x with
    | .ok a => .ok a w
    | .error r => .error (r.map .plain) w

/-- An answer, unless there is a reason why it cannot be given. -/
def granted {α : Type} (reason : Option (Raised B)) (a : α) : Except (Raised B) α :=
  match reason with
  | some r => .error r
  | none => .ok a

/-- What the builtins give for a name. -/
def lookUp (c : Dictionary (Item B A)) (name : Text) : Except (Raised B) (Item B A) :=
  match c.find? name with
  | some v => .ok v
  | none =>
    match c.find? "__getattr__" with
    | some f => (h.hook f.view name).map .plain
    | none => .error (h.missing name)

/-- Binds a value to a buffer, unless there is a reason why it cannot be. -/
def bindItem (f buffer : Item B A) : Except (Raised B) (Item B A) :=
  match f with
  | .plain v => granted (h.unbindable v) (f.bind buffer)
  | _ => .ok (f.bind buffer)

theorem lookUp_mapValues (g : A → A') (c : Dictionary (Item B A)) (name : Text) :
    h.lookUp (c.mapValues (Item.map g)) name = (h.lookUp c name).map (·.map g) := by
  simp only [lookUp, Dictionary.find?_mapValues]
  cases c.find? name with
  | some v => rfl
  | none =>
    cases c.find? "__getattr__" with
    | none => rfl
    | some f =>
      have hview : (f.map g).view = f.view := f.map_map _ _
      simp only [Option.map_none, Option.map_some, hview]
      cases h.hook f.view name <;> rfl

theorem bindItem_map (g : A → A') (f buffer : Item B A) :
    h.bindItem (f.map g) (buffer.map g) = (h.bindItem f buffer).map (·.map g) := by
  cases f with
  | plain v =>
    simp only [bindItem, Item.map, granted]
    cases h.unbindable v with
    | none => exact congrArg Except.ok (Item.map_bind g (.plain v) buffer).symm
    | some r => rfl
  | buffer a => exact congrArg Except.ok (Item.map_bind g (.buffer a) buffer).symm
  | bound v a => exact congrArg Except.ok (Item.map_bind g (.bound v a) buffer).symm

/-- What is in a buffer, as a text. -/
def read (contents : Option Points) : Except (Raised B) Text :=
  match contents with
  | none => .error h.closed
  | some p => if p.hasSurrogate then .error (h.unencodable p) else .ok p.lossy

/-- Keeps something in memory that was not there, and tells where. -/
def keep (f : Memory B → Address × Memory B) : Operation (Memory B) (Item B Address) Address :=
  fun w => .ok (f w.machine).1 { w with machine := (f w.machine).2 }

/-- The dictionary of every module is that of the builtins, the only one that is asked for. -/
def interpreter : Interpreter (Memory B) (Item B Address) where
  builtins := answer (granted h.noBuiltins (.plain h.builtinsModule))
  dictionary _ := pure 0
  copy a := keep fun m => (m.next, m.place (m.dictionary a))
  set a name v := modify (·.changeMachine (·.change (·.set name v) a))
  ask _ name := fun w => answer (h.lookUp w.machine.builtins name) w
  ofText t := .plain (h.ofText t)
  binder := answer (granted h.noBinding (.plain h.binder))
  bindTo _ print buffer := answer (h.bindItem print buffer)
  parse := h.parse
  newBuffer := do
    answer (granted h.noBuffers ())
    return .buffer (← keep fun m => (m.buffers.length, m.placeBuffer))
  run code globals w := (h.script code).run h.isPrint globals w
  printTraceback r := modify (·.writeTo true (h.traceback r))
  flush w := { w with console := ⟨w.console.out.flush, w.console.err.flush⟩ }
  readBuffer v :=
    match v with
    | .buffer b => fun w => answer (h.read (w.machine.contents b)) w
    | _ => pure []

/-- An interpreter whose values are texts, and whose builtins are their own names. -/
def named (script : Text → Script Text) : Scripted Text where
  parse _ := .accepted
  script := script
  isPrint v := v = "print".toList
  builtinsModule := "builtins"
  ofText t := t
  hook _ name := .ok name
  missing name := ⟨"AttributeError", name, []⟩
  binder := "partial"
  noBuiltins := none
  noBuffers := none
  noBinding := none
  unbindable _ := none
  closed := ⟨"ValueError", "I/O operation on closed file", []⟩
  unencodable _ := ⟨"UnicodeEncodeError", "surrogates not allowed", []⟩
  traceback r := r.text

/-- The world in which the builtins are their own names and nothing has run. -/
def namedStart : World (Memory Text) :=
  ⟨.start (aliases.map fun a => (a.builtin, a.builtin)), .empty⟩

end Scripted

end ThaiScript
