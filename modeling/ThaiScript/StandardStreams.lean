import ThaiScript.Text.Basic

/-!
# The standard streams

A script writes to two standard streams. Before a script runs, those that have an encoding are set to
UTF-8, so that Thai text can be written under any locale.
-/

namespace ThaiScript

/-- What stands for a standard stream. -/
inductive StandardStream
  /-- A writer of bytes, whose encoding can be chosen. -/
  | encoded (encoding : Text)
  /-- Anything else, which is left alone. -/
  | unencoded
deriving DecidableEq, Repr

namespace StandardStream

def encoding? : StandardStream → Option Text
  | encoded e => some e
  | unencoded => none

def utf8 : Text := "utf-8"

def useUtf8 : StandardStream → StandardStream
  | encoded _ => encoded utf8
  | unencoded => unencoded

theorem encoding?_useUtf8 (s : StandardStream) :
    s.useUtf8.encoding? = s.encoding?.map fun _ => utf8 := by
  cases s <;> rfl

end StandardStream

/-- The streams under their names; one that was taken away is none. -/
structure StandardStreams where
  stdout : Option StandardStream
  stderr : Option StandardStream
deriving DecidableEq, Repr

namespace StandardStreams

def missingMessage (name : Text) : Text :=
  "AttributeError: module 'sys' has no attribute '" ++ name ++ "'"

/-- Sets both streams to UTF-8, the output stream first. One that is missing ends this, with a
message. -/
def useUtf8 (s : StandardStreams) : StandardStreams × Option Text :=
  match s.stdout, s.stderr with
  | none, _ => (s, some (missingMessage "stdout"))
  | some out, none => ({ s with stdout := some out.useUtf8 }, some (missingMessage "stderr"))
  | some out, some err => (⟨some out.useUtf8, some err.useUtf8⟩, none)

end StandardStreams

end ThaiScript
