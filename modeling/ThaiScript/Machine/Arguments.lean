import ThaiScript.Machine.Format

/-!
# Arguments

How builtin functions and methods complain about arguments that they do not take, and how they read
those that they do.
-/

namespace ThaiScript.Machine

open Run

abbrev Keywords := Dictionary Value

/-- Later keywords replace earlier ones of the same name. -/
def mergeKeywords (earlier later : Keywords) : Keywords :=
  later.foldl (fun ks (k, v) => ks.set k v) earlier

/-- The name with which complaints begin. -/
def requireNoKeywords (name : Text) (keywords : Keywords) : Run Unit := do
  if !keywords.isEmpty then typeError (name ++ "() takes no keyword arguments")

def countOf (n : Nat) : Text := Text.ofNat n ++ (if n = 1 then " argument" else " arguments")

/-- Requires between `least` and `most` arguments. -/
def requireCount (name : Text) (least most : Nat) (args : List Value) : Run Unit := do
  let n := args.length
  if n < least ∨ most < n then
    let given : Text := " (" ++ Text.ofNat n ++ " given)"
    if least = most then
      if most = 0 then typeError (name ++ "() takes no arguments" ++ given)
      else if most = 1 then typeError (name ++ "() takes exactly one argument" ++ given)
      else typeError (name ++ " expected " ++ countOf most ++ ", got " ++ Text.ofNat n)
    else if n < least then
      typeError (name ++ " expected at least " ++ countOf least ++ ", got " ++ Text.ofNat n)
    else typeError (name ++ " expected at most " ++ countOf most ++ ", got " ++ Text.ofNat n)

def requireArguments (name : Text) (least most : Nat) (args : List Value) (keywords : Keywords) :
    Run Unit := do
  requireNoKeywords name keywords
  requireCount name least most args

/-- Requires that no keyword is other than the given ones. -/
def requireKeywords (name : Text) (known : List String) (keywords : Keywords) : Run Unit := do
  match (keywords.map (·.1)).find? fun k => String.ofList k ∉ known with
  | some k => typeError ("'" ++ k ++ "' is an invalid keyword argument for " ++ name ++ "()")
  | none => return

/-- An argument by its position or its name. -/
def argument? (args : List Value) (keywords : Keywords) (i : Nat) (name : Text) : Option Value :=
  args[i]? <|> keywords.find? name

/-- A text as the argument of a method. -/
def textArgument (complaint : Text) (v : Value) : Run Points := do
  match ← content v with
  | .str p _ => return p
  | _ => typeError (complaint ++ (← typeName v))

/-- The bounds of a search, from optional arguments. -/
def searchBounds (ev : Evaluator) (n : Nat) (args : List Value) : Run (Nat × Nat) := do
  let s ← sliceOf ev n (args.getD 0 .none) (args.getD 1 .none) .none
  return (s.start.toNat, s.stop.toNat)

end ThaiScript.Machine
