import ThaiScript.Translation

/-!
# Outcomes

An execution ends in one of four ways. Two of them are reported to the user in a line; only a script
that asks to exit decides on the status of the process.
-/

namespace ThaiScript

/-- A caught exception: the name of its class and the localized message. -/
structure RuntimeFailure where
  category : Text
  message : Text
deriving DecidableEq, Repr

def RuntimeFailure.display (f : RuntimeFailure) : Text := "Runtime error: " ++ f.message

inductive Outcome
  | completed
  | translationFailed (error : TranslationError)
  | runtimeFailed (failure : RuntimeFailure)
  | exited (code : Int)
deriving DecidableEq, Repr

namespace Outcome

/-- The line that is reported to the user. -/
def reportLine : Outcome → Option Text
  | completed => none
  | translationFailed e => some e.display
  | runtimeFailed f => some f.display
  | exited _ => none

/-- The status of the process. A reported failure counts as handled. -/
def exitStatus : Outcome → Int
  | exited code => code
  | _ => 0

end Outcome

end ThaiScript
