import ThaiScript.Language

/-!
# Settings

Three environment variables choose the language of messages, the log filter and whether runtime
failures come with a traceback. A blank value counts as none; only the language can be wrong.
-/

namespace ThaiScript

structure Settings where
  language : Language
  logFilter : Text
  traceback : Bool
deriving DecidableEq, Repr

inductive SettingsError
  | unsupportedLanguage (value : Text)
deriving DecidableEq, Repr

namespace Settings

def languageVariable : Text := "THAI_PYTHON_LANG"
def logVariable : Text := "THAI_PYTHON_LOG"
def tracebackVariable : Text := "THAI_PYTHON_TRACEBACK"

def defaultLogFilter : Text := "thai_python=warn"
def verboseLogFilter : Text := "thai_python=debug"

def initial : Settings := ⟨.thai, defaultLogFilter, false⟩

end Settings

def SettingsError.message : SettingsError → Text
  | .unsupportedLanguage value =>
    Settings.languageVariable ++ " has unsupported language '" ++ value ++ "'"

namespace Settings

/-- An environment: the values of the variables that are set. -/
abbrev Environment := Text → Option Text

/-- The value of a variable, when it is not blank. -/
def filled (env : Environment) (name : Text) : Option Text :=
  (env name).filter fun value => !Text.isBlank value

def isTruthy (value : Text) : Bool :=
  Text.asciiLower (Text.trim value) ∈ ([ "1", "true", "yes", "on" ] : List Text)

def languageOf (env : Environment) : Except SettingsError Language :=
  match filled env languageVariable with
  | none => .ok .thai
  | some value =>
    match Language.ofCode? (Text.trim value) with
    | some l => .ok l
    | none => .error (.unsupportedLanguage value)

/-- The settings of an environment. The log filter is kept as it is written. -/
def ofEnvironment (env : Environment) : Except SettingsError Settings := do
  let language ← languageOf env
  return {
    language
    logFilter := (filled env logVariable).getD defaultLogFilter
    traceback := ((env tracebackVariable).map isTruthy).getD false }

end Settings

end ThaiScript
