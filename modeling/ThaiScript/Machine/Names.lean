import ThaiScript.Machine.Call

/-!
# Names

A name belongs to the running body, to a function around it, to the module or to the builtins. A name
that a function binds anywhere is its own from the start, and has no value until it is bound.
-/

namespace ThaiScript.Machine

open Run

def notDefined {α : Type} (name : Text) : Run α :=
  failAbout .nameError ("name '" ++ name ++ "' is not defined") "name" (.ofText name)

def notBound {α : Type} (name : Text) : Run α :=
  failAbout .unboundLocalError
    ("cannot access local variable '" ++ name ++ "' where it is not associated with a value") "name"
    (.ofText name)

def notBoundAround {α : Type} (name : Text) : Run α :=
  failAbout .nameError
    ("cannot access free variable '" ++ name ++
      "' where it is not associated with a value in enclosing scope") "name" (.ofText name)

/-- The place of a name among the variables of a scope. -/
def bindingOf? (r : Ref) (name : Text) : Run (Option (Nat × Option Value)) := do
  match ← object r with
  | .scope vars =>
    match vars.findIdx? (·.1 == name) with
    | some i => return some (i, (vars[i]?).bind (·.2))
    | none => return none
  | _ => return none

def setVariable (r : Ref) (i : Nat) (v : Option Value) : Run Unit :=
  modifyObject r fun o =>
    match o with
    | .scope vars => .scope (vars.modify i fun e => (e.1, v))
    | o => o

/-- The nearest of several scopes that has a name. -/
def scopeOf : List Ref → Text → Run (Option (Ref × Nat × Option Value))
  | [], _ => return none
  | r :: rs, name => do
    match ← bindingOf? r name with
    | some (i, v) => return some (r, i, v)
    | none => scopeOf rs name

def loadGlobal (f : Frame) (name : Text) : Run Value := do
  match (← entries f.globals).value? name with
  | some v => return v
  | none =>
    match (← entries (← state).builtins).value? name with
    | some v => return v
    | none => notDefined name

/-- Looks a name up in the functions around a body, and then in the module. -/
def loadAround (f : Frame) (name : Text) : Run Value := do
  match ← scopeOf f.enclosing name with
  | some (_, _, some v) => return v
  | some (_, _, none) => notBoundAround name
  | none => loadGlobal f name

def loadName (f : Frame) (name : Text) : Run Value := do
  if name ∈ f.globalNames then loadGlobal f name
  else
    match f.place with
    | .globals => loadGlobal f name
    | .classBody r =>
      match (← entries r).value? name with
      | some v => return v
      | none => loadAround f name
    | .scope r =>
      match ← bindingOf? r name with
      | some (_, some v) => return v
      | some (_, none) => notBound name
      | none => loadAround f name

def storeGlobal (f : Frame) (name : Text) (v : Value) : Run Unit :=
  modifyEntries f.globals (·.set name v)

/-- Binds a name that a body declares to be of a function around it. -/
def storeAround (f : Frame) (name : Text) (v : Value) : Run Unit := do
  match ← scopeOf f.enclosing name with
  | some (r, i, _) => setVariable r i (some v)
  | none => storeGlobal f name v

def storeName (f : Frame) (name : Text) (v : Value) : Run Unit := do
  if name ∈ f.globalNames then storeGlobal f name v
  else
    match f.place with
    | .globals => storeGlobal f name v
    | .classBody r => modifyEntries r (·.set name v)
    | .scope r =>
      match ← bindingOf? r name with
      | some (i, _) => setVariable r i (some v)
      | none => storeAround f name v

def deleteGlobal (f : Frame) (name : Text) : Run Unit := do
  if ((← entries f.globals).value? name).isSome then modifyEntries f.globals (·.erase name)
  else notDefined name

def deleteName (f : Frame) (name : Text) : Run Unit := do
  if name ∈ f.globalNames then deleteGlobal f name
  else
    match f.place with
    | .globals => deleteGlobal f name
    | .classBody r =>
      if ((← entries r).value? name).isSome then modifyEntries r (·.erase name)
      else notDefined name
    | .scope r =>
      match ← bindingOf? r name with
      | some (i, some _) => setVariable r i none
      | some (_, none) => notBound name
      | none =>
        match ← scopeOf f.enclosing name with
        | some (s, i, some _) => setVariable s i none
        | some (_, _, none) => notBoundAround name
        | none => notDefined name

/-- The scopes that a function defined in a body finds around it. -/
def Frame.around (f : Frame) : List Ref :=
  match f.place with
  | .scope r => r :: f.enclosing
  | _ => f.enclosing

end ThaiScript.Machine
