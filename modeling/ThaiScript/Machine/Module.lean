import ThaiScript.Machine.Arguments

/-!
# Modules

A module is imported once and kept. Those that are halted cannot be imported, and there are no others
than the ones that a program finds at its start.
-/

namespace ThaiScript.Machine

open Run

def haltedMessage (name : Text) : Text := "import of " ++ name ++ " halted; None in sys.modules"

/-- Raises the exception for a module that cannot be imported. -/
def failImport {α : Type} (message name : Text) : Run α :=
  failAbout .moduleNotFoundError message "name" (.ofText name)

def importModule (name : Text) : Run Value := do
  let s ← state
  if name ∈ s.halted then failImport (haltedMessage name) name
  match s.modules.find? name with
  | some m => return m
  | none => failImport ("No module named '" ++ name ++ "'") name

/-- A path of names, joined by points. -/
def dotted (path : List Text) : Text := Text.join "." path

/-- Imports the module at the end of a path. `before` is the path that is imported already. -/
def importPath (before : List Text) (parent : Value) : List Text → Run Value
  | [] => return parent
  | n :: ns => do
    let path := before ++ [n]
    if dotted path ∈ (← state).halted then failImport (haltedMessage (dotted path)) (dotted path)
    match (← state).modules.find? (dotted path) with
    | some m => importPath path m ns
    | none =>
      failImport ("No module named '" ++ dotted path ++ "'; '" ++ dotted before ++
        "' is not a package") (dotted path)

def importDotted (path : List Text) : Run Value := do
  match path with
  | [] => valueError "Empty module name"
  | n :: ns => importPath [n] (← importModule n) ns

/-- A name of a module that a program asks for. -/
def importedName (ev : Evaluator) (module : Value) (path : List Text) (name : Text) : Run Value := do
  let found : Run (Option Value) := do return some (← getAttribute ev module name)
  match ← rescue .attributeError found fun _ => return none with
  | some v => return v
  | none =>
    failAbout .importError
      ("cannot import name '" ++ name ++ "' from '" ++ dotted path ++ "' (unknown location)") "name"
      (.ofText (dotted path))

/-- The names that a module gives when all are asked for. -/
def publicNames (ev : Evaluator) (module : Value) : Run (List Text) := do
  match ← objectOf module with
  | .module _ attrs =>
    let es ← entries attrs
    match es.value? "__all__" with
    | some v =>
      return (← itemsOf ev v).filterMap fun n =>
        match n with
        | .str p _ => some p.lossy
        | _ => none
    | none => return (es.names.map (·.1)).filter fun n => n.head? ≠ some '_'
  | _ => return []

end ThaiScript.Machine
