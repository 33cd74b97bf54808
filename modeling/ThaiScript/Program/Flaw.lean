import ThaiScript.Text.Basic

/-!
# Flaws

A program that the grammar takes can still be flawed: it leaves a loop that there is not, or declares
a name too late. A flaw keeps it from running. Other constructs are only worth a warning.
-/

namespace ThaiScript.Program

inductive Flaw
  | outsideFunction (what : String)
  | outsideLoop (what : String)
  | outsideAsync (what : String)
  | duplicateParameter (name : Text)
  | repeatedKeyword (name : Text)
  | nonlocalAtModule
  | noBinding (name : Text)
  | nonlocalAndGlobal (name : Text)
  | declaredLate (name : Text) (used : Bool) (declaration : String)
  | declaredParameter (name : Text) (declaration : String)
  | declaredAnnotated (name : Text) (declaration : String)
  | starImport
  | earlyDefault
  | starredHere
  | starredTarget
  | severalStarred
  | manyStarTargets
  | debugTarget
  | debugDeletion
  | manyBlocks
deriving DecidableEq, Repr

def Flaw.message : Flaw → Text
  | outsideFunction what => "'" ++ what ++ "' outside function"
  | outsideLoop what =>
    if what = "break" then "'break' outside loop" else "'" ++ what ++ "' not properly in loop"
  | outsideAsync what => "'" ++ what ++ "' outside async function"
  | duplicateParameter n => "duplicate argument '" ++ n ++ "' in function definition"
  | repeatedKeyword n => "keyword argument repeated: " ++ n
  | nonlocalAtModule => "nonlocal declaration not allowed at module level"
  | noBinding n => "no binding for nonlocal '" ++ n ++ "' found"
  | nonlocalAndGlobal n => "name '" ++ n ++ "' is nonlocal and global"
  | declaredLate n used d =>
    "name '" ++ n ++ (if used then "' is used prior to " else "' is assigned to before ") ++ d ++
      " declaration"
  | declaredParameter n d => "name '" ++ n ++ "' is parameter and " ++ d
  | declaredAnnotated n d => "annotated name '" ++ n ++ "' can't be " ++ d
  | starImport => "import * only allowed at module level"
  | earlyDefault => "default 'except:' must be last"
  | starredHere => "can't use starred expression here"
  | starredTarget => "starred assignment target must be in list or tuple"
  | severalStarred => "multiple starred expressions in assignment"
  | manyStarTargets => "too many expressions in star-unpacking assignment"
  | debugTarget => "cannot assign to __debug__"
  | debugDeletion => "cannot delete __debug__"
  | manyBlocks => "too many statically nested blocks"

/-- Constructs that fail, or always hold, whenever they are evaluated. The strings name types. -/
inductive Warning
  | sameAsLiteral
  | differentFromLiteral
  | alwaysTrue
  | notCallable (type : String)
  | notSubscriptable (type : String)
  | badIndex (type index : String)
deriving DecidableEq, Repr

def Warning.message : Warning → Text
  | sameAsLiteral => "\"is\" with a literal. Did you mean \"==\"?"
  | differentFromLiteral => "\"is not\" with a literal. Did you mean \"!=\"?"
  | alwaysTrue => "assertion is always true, perhaps remove parentheses?"
  | notCallable type => "'" ++ type ++ "' object is not callable; perhaps you missed a comma?"
  | notSubscriptable type =>
    "'" ++ type ++ "' object is not subscriptable; perhaps you missed a comma?"
  | badIndex type index =>
    type ++ " indices must be integers or slices, not " ++ index ++ "; perhaps you missed a comma?"

end ThaiScript.Program
