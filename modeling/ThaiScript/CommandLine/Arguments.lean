import ThaiScript.Language

/-!
# Command line arguments

Arguments name a script and options. An option may be given once and at any place before `--`, behind
which every argument is a script. Arguments are read from left to right, and the first that asks for
help or for the version, or that is wrong, ends the reading.
-/

namespace ThaiScript.CommandLine

inductive EmitFormat
  | python
  | json
deriving DecidableEq, Repr

def EmitFormat.all : List EmitFormat := [.python, .json]

def EmitFormat.name : EmitFormat → Text
  | python => "python"
  | json => "json"

/-- An option without a value. -/
inductive Switch
  | emit
  | traceback
  | verbose
deriving DecidableEq, Repr

def Switch.all : List Switch := [.emit, .traceback, .verbose]

def Switch.name : Switch → Text
  | emit => "emit"
  | traceback => "traceback"
  | verbose => "verbose"

/-- An option with a value. -/
inductive Setting
  | format
  | language
deriving DecidableEq, Repr

namespace Setting

def all : List Setting := [.format, .language]

def name : Setting → Text
  | format => "format"
  | language => "lang"

/-- How the option is shown. -/
def shown : Setting → Text
  | format => "--format <FORMAT>"
  | language => "--lang <LANG>"

def values : Setting → List Text
  | format => EmitFormat.all.map EmitFormat.name
  | language => Language.all.map Language.code

end Setting

structure Options where
  script : Option Text
  emit : Bool
  format : Option EmitFormat
  language : Option Language
  traceback : Bool
  verbose : Bool
deriving DecidableEq, Repr

def Options.none : Options := ⟨.none, false, .none, .none, false, false⟩

inductive UsageError
  | unknownArgument (shown : Text)
  | unexpectedValue (option value : Text)
  | missingValue (option : Text) (values : List Text)
  | invalidValue (option value : Text) (values : List Text)
  | repeated (option : Text)
deriving DecidableEq, Repr

/-- What arguments ask for. -/
inductive Request
  | start (o : Options)
  | help
  | version
  | mistake (e : UsageError)
deriving DecidableEq, Repr

def usageLine : Text := "Usage: thai-python [OPTIONS] [SCRIPT]"

namespace UsageError

def possible (values : List Text) : Text :=
  if values.isEmpty then [] else "\n  [possible values: " ++ Text.join ", " values ++ "]"

def description : UsageError → Text
  | unknownArgument a => "unexpected argument '" ++ a ++ "' found"
  | unexpectedValue o v => "unexpected value '" ++ v ++ "' for '" ++ o ++ "' found; no more were expected"
  | missingValue o vs => "a value is required for '" ++ o ++ "' but none was supplied" ++ possible vs
  | invalidValue o v vs => "invalid value '" ++ v ++ "' for '" ++ o ++ "'" ++ possible vs
  | repeated o => "the argument '" ++ o ++ "' cannot be used multiple times"

def message (e : UsageError) : Text :=
  "error: " ++ e.description ++ "\n\n" ++ usageLine ++ "\n\nFor more information, try '--help'.\n"

end UsageError

namespace Options

def turnOn (o : Options) : Switch → Except Request Options
  | .emit => if o.emit then .error (.mistake (.repeated "--emit")) else .ok { o with emit := true }
  | .traceback =>
    if o.traceback then .error (.mistake (.repeated "--traceback")) else .ok { o with traceback := true }
  | .verbose =>
    if o.verbose then .error (.mistake (.repeated "--verbose")) else .ok { o with verbose := true }

def choose (o : Options) (s : Setting) (value : Text) : Except Request Options :=
  match s with
  | .format =>
    match EmitFormat.all.find? fun f => f.name = value with
    | .none => .error (.mistake (.invalidValue s.shown value s.values))
    | some f =>
      if o.format.isSome then .error (.mistake (.repeated s.shown)) else .ok { o with format := some f }
  | .language =>
    match Language.all.find? fun l => l.code = value with
    | .none => .error (.mistake (.invalidValue s.shown value s.values))
    | some l =>
      if o.language.isSome then .error (.mistake (.repeated s.shown))
      else .ok { o with language := some l }

def setScript (o : Options) (path : Text) : Except Request Options :=
  if o.script.isSome then .error (.mistake (.unknownArgument path))
  else if path.isEmpty then .error (.mistake (.missingValue "[SCRIPT]" []))
  else .ok { o with script := some path }

/-- One letter of an argument such as `-vh`. -/
def letter (o : Options) (c : Char) : Except Request Options :=
  if c = 'v' then o.turnOn .verbose
  else if c = 'h' then .error .help
  else if c = 'V' then .error .version
  else .error (.mistake (.unknownArgument ['-', c]))

end Options

/-- What an argument is, by its first characters. -/
inductive Argument
  /-- The argument `--`. -/
  | separator
  /-- A long option, and what stands behind its first equals sign. -/
  | long (name : Text) (value : Option Text)
  | short (letters : Text)
  | plain (t : Text)
deriving DecidableEq, Repr

/-- A text up to its first equals sign, and what follows that. -/
def splitEquals : Text → Text × Option Text
  | [] => ([], none)
  | c :: t => if c = '=' then ([], some t) else ((c :: (splitEquals t).1), (splitEquals t).2)

def Argument.of : Text → Argument
  | ['-', '-'] => .separator
  | '-' :: '-' :: t => .long (splitEquals t).1 (splitEquals t).2
  | ['-'] => .plain ['-']
  | '-' :: t => .short t
  | t => .plain t

/-- A long option. The second part of the answer is an option that still waits for its value. -/
def longOption (o : Options) (name : Text) (value : Option Text) :
    Except Request (Options × Option Setting) :=
  let shown := "--".toList ++ name
  match Setting.all.find? fun s => s.name = name with
  | some s =>
    match value with
    | some v => (o.choose s v).map fun o => (o, none)
    | none => .ok (o, some s)
  | none =>
    let attached (act : Except Request Options) : Except Request (Options × Option Setting) :=
      match value with
      | some v => .error (.mistake (.unexpectedValue shown v))
      | none => act.map fun o => (o, none)
    match Switch.all.find? fun s => s.name = name with
    | some s => attached (o.turnOn s)
    | none =>
      if name = "help".toList then attached (.error .help)
      else if name = "version".toList then attached (.error .version)
      else .error (.mistake (.unknownArgument shown))

/-- Reads arguments into options. `waiting` is the option whose value comes next. -/
def readArguments (waiting : Option Setting) (o : Options) : List Text → Except Request Options
  | [] =>
    match waiting with
    | none => .ok o
    | some s => .error (.mistake (.missingValue s.shown s.values))
  | a :: as =>
    match waiting, Argument.of a with
    | some s, .plain v => do readArguments none (← o.choose s v) as
    | some s, _ => .error (.mistake (.missingValue s.shown s.values))
    | none, .plain path => do readArguments none (← o.setScript path) as
    | none, .separator => as.foldlM Options.setScript o
    | none, .short letters => do readArguments none (← letters.foldlM Options.letter o) as
    | none, .long name value => do
      let (o, waiting) ← longOption o name value
      readArguments waiting o as

/-- What a list of arguments asks for. -/
def Request.of (args : List Text) : Request :=
  match readArguments none .none args with
  | .ok o => .start o
  | .error r => r

end ThaiScript.CommandLine
