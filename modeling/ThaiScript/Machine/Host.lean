import ThaiScript.Machine.Interpreter

/-!
# The machine and its host

What a host does with the machine besides running programs: it makes exceptions, reads them, hands
them to the reporter that is installed, and looks at the names that a program starts with.
-/

namespace ThaiScript.Machine

open Run

/-- A class and the arguments that it is called with. -/
structure Construction where
  name : Text
  /-- The builtin class that a class of this name derives from; none if the name is a builtin's. -/
  base : Option Text
  args : List Value

namespace Construction

/-- A builtin by its name. -/
def builtin (name : Text) : Run Value := do
  match (← entries (← state).builtins).value? name with
  | some v => return v
  | none => fail .nameError ("name '" ++ name ++ "' is not defined")

def classOf (c : Construction) : Run Value := do
  match c.base with
  | none => builtin c.name
  | some base => makeClass standard c.name [← builtin base] [] []

def make (c : Construction) : Run Value := do
  standard.call (← c.classOf) c.args []

end Construction

/-- Runs an operation of the host. A failure is told as the class and the text of the exception. -/
def hosted {α : Type} (op : Run α) (w : World State) : Except Text α × World State :=
  match op.run w with
  | .ok a w => (.ok a, w)
  | .error .exhausted w => (.error "MemoryError", w)
  | .error (.raised r) w =>
    let told : Run Text := do
      match ← exceptionObject r with
      | none => return []
      | some e =>
        return (← classQualname e.cls) ++ ": " ++ (← textOr standard "<exception str() failed>" (.ref r))
    match told.run w with
    | .ok t w => (.error t, w)
    | .error _ w => (.error [], w)

/-- The qualified name of the class of a value and its localized message. -/
def categoryAndMessage (l : Language) (v : Value) : Run (Text × Text) := do
  return (← classQualname (← Machine.classOf v), ← localizedMessage standard l v)

/-- What a parser says that fails with an exception. -/
def verdictOf (c : Construction) : Run Verdict := do
  return .rejected (← printable standard (← c.make))

/-- Hands the class and the value of an exception, and no traceback, to the reporter that is
installed; the first `count` of these three. -/
def callReporter (c : Construction) (count : Nat) : Run Unit := do
  let cls ← c.classOf
  let v ← standard.call cls c.args []
  let _ ← standard.call ((← systemValue? "excepthook").getD .none) ([cls, v, .none].take count) []

/-- What a name stands for in a namespace. -/
inductive Binding
  | builtinsModule
  /-- The print function, bound to the buffer. -/
  | capturedPrint
  | text (t : Text)
  /-- A builtin, by its own name. -/
  | builtin (name : Text)
  /-- Another value, as programs show it. -/
  | value (shown : Text)
deriving DecidableEq, Repr

def Binding.of (v : Value) : Run Binding := do
  match v with
  | .ref r =>
    if r = Start.builtinsModule then return .builtinsModule
    else return .value (← standard.repr v).lossy
  | .partialCall .. => return .capturedPrint
  | .str p _ => return .text p.lossy
  | .cls c => return .builtin (← className c)
  | .builtin name => return .builtin name.toList
  | v => return .value (← standard.repr v).lossy

/-- What names stand for in the namespace that a run starts from. -/
def bindings (s : Setup) (sink : Sink) (names : List Text) :
    Except (Raised Value) (List (Text × Option Binding)) :=
  match (interpreter s).prepare sink (startWorld s) with
  | .error r _ => .error r
  | .ok (_, globals) w =>
    let valueOf (name : Text) : Run (Option Value) := do return (← entries globals).value? name
    let bindingOf (name : Text) : Run (Option Binding) := do (← valueOf name).mapM Binding.of
    .ok (names.map fun name => (name, (hosted (bindingOf name) w).1.toOption.join))

end ThaiScript.Machine
