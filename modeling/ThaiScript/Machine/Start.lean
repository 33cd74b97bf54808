import ThaiScript.Machine.Execute

/-!
# The start of the machine

The builtins, the modules that programs can import, and the streams of the process, as they are before
any program has run.
-/

namespace ThaiScript.Machine

/-- What can differ between machines. -/
structure Setup where
  /-- What the parser says of every text, where it is not asked. -/
  verdict : Option Verdict
  /-- The modules whose import fails. -/
  halted : List Text
  /-- The files that programs can open for reading. -/
  files : FileTree
  /-- The language of the reporter of exceptions, where the localized one is installed. -/
  reporter : Option Language
  /-- How many bodies of the host run around a program. -/
  depth : Nat

def Setup.standard : Setup := ⟨none, [], .empty, none, 0⟩

namespace Start

def named (ns : List String) (v : String → Value) : Dictionary Value :=
  ns.map fun n => (n.toList, v n)

def coreClass (n : String) : Value :=
  match CoreClass.named.find? fun e => e.2 = n with
  | some (c, _) => .cls (.core c)
  | none => .none

def exceptionClass (n : String) : Value :=
  match ExceptionClass.ofName? n with
  | some c => .cls (.exception c)
  | none => .none

/-- The places of the objects that are there from the start. -/
def builtinsDict : Ref := 0
def systemDict : Ref := 1
def output : Ref := 2
def errors : Ref := 3
def builtinsModule : Ref := 4
def systemModule : Ref := 5
def bufferDict : Ref := 6
def bufferModule : Ref := 7
def functionDict : Ref := 8
def functionModule : Ref := 9
def numberDict : Ref := 10
def numberModule : Ref := 11
def quitter : Ref := 12
def exiter : Ref := 13

/-- The classes in the order in which programs find them. -/
def coreOrder : List String := [
  "bool", "memoryview", "bytearray", "bytes", "classmethod", "complex", "dict", "enumerate", "filter",
  "float", "frozenset", "property", "int", "list", "map", "object", "range", "reversed", "set", "slice",
  "staticmethod", "str", "super", "tuple", "type", "zip"]

/-- The exception classes in the order in which programs find them. -/
def exceptionOrder : List String := [
  "BaseException", "BaseExceptionGroup", "Exception", "GeneratorExit", "KeyboardInterrupt",
  "SystemExit", "ArithmeticError", "AssertionError", "AttributeError", "BufferError", "EOFError",
  "ImportError", "LookupError", "MemoryError", "NameError", "OSError", "ReferenceError",
  "RuntimeError", "StopAsyncIteration", "StopIteration", "SyntaxError", "SystemError", "TypeError",
  "ValueError", "Warning", "FloatingPointError", "OverflowError", "ZeroDivisionError",
  "BytesWarning", "DeprecationWarning", "EncodingWarning", "FutureWarning", "ImportWarning",
  "PendingDeprecationWarning", "ResourceWarning", "RuntimeWarning", "SyntaxWarning",
  "UnicodeWarning", "UserWarning", "BlockingIOError", "ChildProcessError", "ConnectionError",
  "FileExistsError", "FileNotFoundError", "InterruptedError", "IsADirectoryError",
  "NotADirectoryError", "PermissionError", "ProcessLookupError", "TimeoutError", "IndentationError",
  "IndexError", "KeyError", "ModuleNotFoundError", "NotImplementedError", "RecursionError",
  "UnboundLocalError", "UnicodeError", "BrokenPipeError", "ConnectionAbortedError",
  "ConnectionRefusedError", "ConnectionResetError", "TabError", "UnicodeDecodeError",
  "UnicodeEncodeError", "UnicodeTranslateError", "ExceptionGroup"]

def builtins : Dictionary Value :=
  [("__name__".toList, .ofString "builtins"),
    ("__doc__".toList, .ofString ("Built-in functions, exceptions, and other objects.\n\nNoteworthy: " ++
      "None is the `nil' object; Ellipsis represents `...' in slices.")),
    ("__package__".toList, .str []), ("__loader__".toList, .none), ("__spec__".toList, .none)] ++
  named functionNames .builtin ++
  [("None".toList, .none), ("Ellipsis".toList, .ellipsis), ("NotImplemented".toList, .notImplemented),
    ("False".toList, .bool false), ("True".toList, .bool true)] ++
  named coreOrder coreClass ++
  [("__debug__".toList, .bool true)] ++
  named exceptionOrder exceptionClass ++
  [("EnvironmentError".toList, .cls (.exception .osError)),
    ("IOError".toList, .cls (.exception .osError)), ("open".toList, .builtin "open"),
    ("quit".toList, .ref quitter), ("exit".toList, .ref exiter)] ++
  named ["copyright", "credits", "license", "help"] .builtin

def system (reporter : Option Language) : Dictionary Value := [
  ("__name__".toList, .ofString "sys"),
  ("stdout".toList, .ref output), ("stderr".toList, .ref errors), ("stdin".toList, .none),
  ("__stdout__".toList, .ref output), ("__stderr__".toList, .ref errors), ("__stdin__".toList, .none),
  ("exit".toList, .builtin "sys.exit"),
  ("excepthook".toList, .builtin (if reporter.isSome then "thai_excepthook" else "sys.excepthook")),
  ("__excepthook__".toList, .builtin "sys.excepthook"),
  ("exc_info".toList, .builtin "sys.exc_info"),
  ("getrecursionlimit".toList, .builtin "sys.getrecursionlimit"),
  ("intern".toList, .builtin "sys.intern"),
  ("maxsize".toList, .int 9223372036854775807), ("maxunicode".toList, .int 0x10FFFF),
  ("byteorder".toList, .ofString "little"), ("platform".toList, .ofString "linux"),
  ("version_info".toList, .tuple [.int 3, .int 11, .int 2, .ofString "final", .int 0])]

def numbers : Dictionary Value :=
  [("__name__".toList, .ofString "math"), ("pi".toList, .float 3.141592653589793),
    ("e".toList, .float 2.718281828459045), ("inf".toList, .float Decimal.infinity),
    ("nan".toList, .float Decimal.notANumber)] ++
  named ["floor", "ceil", "trunc", "sqrt", "log", "exp", "sin", "cos", "tan", "fabs", "pow", "isnan",
    "isinf", "gcd", "factorial"] fun n => .builtin ("math." ++ n)

/-- The objects that are there from the start, in the order of their places. -/
def heap (reporter : Option Language) : Array Object := #[
  .dict (Entries.ofNames builtins),
  .dict (Entries.ofNames (system reporter)),
  .stream false false,
  .stream true false,
  .module "builtins" builtinsDict,
  .module "sys" systemDict,
  .dict (Entries.ofNames [("__name__".toList, .ofString "io"), ("StringIO".toList, .cls (.core .textBuffer))]),
  .module "io" bufferDict,
  .dict (Entries.ofNames [
    ("__name__".toList, .ofString "functools"), ("partial".toList, .cls (.core .partialCall))]),
  .module "functools" functionDict,
  .dict (Entries.ofNames numbers),
  .module "math" numberDict,
  .quitter "quit",
  .quitter "exit"]

end Start

open Start in
/-- The state before any program has run. -/
def State.start (s : Setup) : State where
  heap := Start.heap s.reporter
  handled := []
  frames := []
  depth := s.depth
  numbered := 0
  showing := []
  system := systemDict
  builtins := builtinsDict
  modules := [
    ("builtins".toList, .ref builtinsModule), ("sys".toList, .ref systemModule),
    ("io".toList, .ref bufferModule), ("functools".toList, .ref functionModule),
    ("math".toList, .ref numberModule)]
  halted := s.halted
  language := s.reporter.getD .thai
  files := s.files

end ThaiScript.Machine
