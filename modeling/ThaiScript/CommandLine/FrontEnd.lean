import ThaiScript.CommandLine.Arguments
import ThaiScript.CommandLine.LogFilter
import ThaiScript.Settings
import ThaiScript.Text.Replace
import ThaiScript.Translation

/-!
# Front ends

What stands between a call and the process: how arguments are read, which log filters are in order, what
the log writes, and how a text is coloured. Libraries do this, so a call is given a front end. That of
the program is `FrontEnd.standard`. Its log keeps silent, since the lines of a log carry the time, and
no call waits for them.
-/

namespace ThaiScript.CommandLine

/-! ### The log -/

/-- What a call tells the log. -/
inductive LogEvent
  /-- Bytes of a script that stand for no text were replaced. -/
  | replaced (path encoding : Text)
  | loaded (path : Text) (bytes : Nat)
  | shielded (literals : Nat)
  | validated (bytes : Nat)
  | rejected (e : TranslationError)
deriving DecidableEq, Repr

/-- A stream that a call writes to. -/
inductive Target
  | stdout
  | stderr
deriving DecidableEq, Repr

structure Log where
  target : Target
  /-- The lines of an event that comes behind so many others, if the filter lets it through. -/
  line : Nat → LogEvent → Text

/-! ### Colours -/

def forcedColourVariable : Text := "CLICOLOR_FORCE"
def noColourVariable : Text := "NO_COLOR"
def colourVariable : Text := "CLICOLOR"

/-- Whether a variable is set to something else than zero. -/
def isOn (value : Option Text) : Option Bool := value.map fun v => v ≠ "0".toList

/-- Whether text is coloured, when the output stream is a terminal or not. -/
def isColoured (isTerminal : Bool) (env : Settings.Environment) : Bool :=
  if isOn (env forcedColourVariable) = some true then true
  else if (env noColourVariable).isSome then false
  else (isOn (env colourVariable)).getD true && isTerminal

def redCode : Text := "\x1b[31m"

def resetCode : Text := "\x1b[0m"

/-- A text in red, which begins anew behind what ends a colour in the text. -/
def red (t : Text) : Text :=
  redCode ++ Text.replaceAll resetCode (resetCode ++ redCode) t ++ resetCode

/-! ### Front ends -/

structure FrontEnd where
  /-- What arguments ask for. -/
  request : List Text → Request
  /-- What is wrong with a log filter: a message, and the messages of its causes. -/
  filterFault? : Text → Option (List Text)
  /-- The lines of a log with a filter. -/
  logLine : (filter : Text) → Nat → LogEvent → Text
  /-- What is shown of a text that should be red. -/
  paint : Settings.Environment → Text → Text

/-- The front end of the program, in a process whose output stream is a terminal or not. -/
def FrontEnd.standard (isTerminal : Bool) : FrontEnd where
  request := Request.of
  filterFault? filter := (LogFilter.fault? filter).map LogFilter.Fault.chain
  logLine _ _ _ := []
  paint env t := if isColoured isTerminal env then red t else t

end ThaiScript.CommandLine
