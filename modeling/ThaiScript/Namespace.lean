import ThaiScript.Text.Basic

/-!
# The namespace of a run

Every run starts from a dictionary of its own: a copy of the builtins, the name of the main module, and
Thai aliases of some builtins. When output is captured, `print` and its aliases are bound to the buffer.
The copy is made first, and its names are set one after the other. The builtins are asked for between
these steps, and a module can answer by code of its own, so that an answer may change the state.
-/

namespace ThaiScript

/-- Names and their values. The first entry of a name counts. -/
abbrev Dictionary (V : Type) := List (Text × V)

namespace Dictionary

variable {V : Type}

def find? (d : Dictionary V) (name : Text) : Option V := d.lookup name

/-- Binds a name, in its place if it has one and else at the end. -/
def set : Dictionary V → Text → V → Dictionary V
  | [], name, v => [(name, v)]
  | (n, w) :: d, name, v => if n = name then (n, v) :: d else (n, w) :: set d name v

theorem find?_set (d : Dictionary V) (name other : Text) (v : V) :
    (d.set name v).find? other = if other = name then some v else d.find? other := by
  induction d with
  | nil =>
    by_cases h : other = name
    · simp [set, find?, h]
    · simp [set, find?, h, beq_eq_false_iff_ne.2 h, List.lookup_cons]
  | cons e d ih =>
    obtain ⟨n, w⟩ := e
    simp only [find?] at ih ⊢
    by_cases hn : n = name
    · subst hn
      by_cases h : other = n
      · simp [set, h]
      · simp [set, h, List.lookup_cons, beq_eq_false_iff_ne.2 h]
    · by_cases h : other = n
      · subst h; simp [set, hn]
      · simp [set, hn, List.lookup_cons, beq_eq_false_iff_ne.2 h, ih]

end Dictionary

/-- A Thai name of a builtin. -/
structure Alias where
  name : Text
  builtin : Text
deriving DecidableEq, Repr

def aliases : List Alias := [
  ⟨"พิมพ์", "print"⟩,
  ⟨"ตัวเลข", "int"⟩,
  ⟨"ทศนิยม", "float"⟩,
  ⟨"ข้อความ", "str"⟩,
  ⟨"รายการ", "list"⟩,
  ⟨"พจนานุกรม", "dict"⟩,
  ⟨"เซต", "set"⟩]

/-- Where a dictionary or a buffer is kept. -/
abbrev Address := Nat

/-- What a namespace is built from, among states `σ`: values `V`, and failures `E` of the interpreter. -/
structure NamespaceParts (σ E V : Type) where
  /-- The module of the builtins, unless it cannot be imported. -/
  builtins : EStateM E σ V
  /-- The dictionary of a module. -/
  dictionary : V → EStateM E σ Address
  /-- A new dictionary with the names of another one. -/
  copy : Address → EStateM E σ Address
  /-- Sets a name in a dictionary. -/
  set : Address → Text → V → EStateM E σ Unit
  /-- What a module gives for a name. One that is not in its dictionary may be answered by a function
  that is. -/
  ask : V → Text → EStateM E σ V
  ofText : Text → V
  /-- What binds functions to arguments, unless its module cannot be imported. -/
  binder : EStateM E σ V
  /-- Binds a print function to the buffer that it writes to. What is no function cannot be bound. -/
  bindTo : (binder print buffer : V) → EStateM E σ V

namespace NamespaceParts

variable {σ E V : Type} (p : NamespaceParts σ E V)

/-- The print function that writes to the buffer, where output is captured. -/
def captured (module : V) : (buffer : Option V) → EStateM E σ (Option V)
  | none => return none
  | some buffer => do
    let binder ← p.binder
    let print ← p.ask module "print"
    return some (← p.bindTo binder print buffer)

/-- The value of an alias: the captured print function for `print`, else its builtin. -/
def aliasValue (module : V) (print : Option V) (a : Alias) : EStateM E σ V :=
  match print with
  | some v => if a.builtin = "print".toList then return v else p.ask module a.builtin
  | none => p.ask module a.builtin

def setPrint (globals : Address) : (print : Option V) → EStateM E σ Unit
  | some v => p.set globals "print" v
  | none => return

/-- Binds aliases one after the other. -/
def bindAliases (module : V) (globals : Address) (print : Option V) : List Alias → EStateM E σ Unit
  | [] => return
  | a :: as => do
    let v ← p.aliasValue module print a
    p.set globals a.name v
    bindAliases module globals print as

/-- The dictionary that a run starts from. -/
def build (buffer : Option V) : EStateM E σ Address := do
  let module ← p.builtins
  let globals ← p.copy (← p.dictionary module)
  p.set globals "__builtins__" module
  p.set globals "__name__" (p.ofText "__main__")
  let print ← p.captured module buffer
  p.setPrint globals print
  p.bindAliases module globals print aliases
  return globals

end NamespaceParts

end ThaiScript
