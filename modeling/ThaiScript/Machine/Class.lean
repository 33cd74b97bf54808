import ThaiScript.Text.Basic

/-!
# Classes

The classes that every program finds: those of exceptions, which form a tree of their own, and those
of all other values. A class carries its ancestors as a list, nearest first.
-/

namespace ThaiScript.Machine

inductive ExceptionClass
  | baseException | exception | arithmeticError | assertionError | attributeError | baseExceptionGroup
  | blockingIOError | brokenPipeError | bufferError | bytesWarning | childProcessError
  | connectionAbortedError | connectionError | connectionRefusedError | connectionResetError
  | deprecationWarning | eofError | encodingWarning | exceptionGroup | fileExistsError
  | fileNotFoundError | floatingPointError | futureWarning | generatorExit | importError
  | importWarning | indentationError | indexError | interruptedError | isADirectoryError | keyError
  | keyboardInterrupt | lookupError | memoryError | moduleNotFoundError | nameError
  | notADirectoryError | notImplementedError | osError | overflowError | pendingDeprecationWarning
  | permissionError | processLookupError | recursionError | referenceError | resourceWarning
  | runtimeError | runtimeWarning | stopAsyncIteration | stopIteration | syntaxError | syntaxWarning
  | systemError | systemExit | tabError | timeoutError | typeError | unboundLocalError
  | unicodeDecodeError | unicodeEncodeError | unicodeError | unicodeTranslateError | unicodeWarning
  | userWarning | valueError | warning | zeroDivisionError
deriving DecidableEq, Repr, Inhabited

namespace ExceptionClass

/-- Each class with its name and the class that it derives from. -/
def table : List (ExceptionClass × String × Option ExceptionClass) := [
  (baseException, "BaseException", none),
  (exception, "Exception", some baseException),
  (arithmeticError, "ArithmeticError", some exception),
  (assertionError, "AssertionError", some exception),
  (attributeError, "AttributeError", some exception),
  (baseExceptionGroup, "BaseExceptionGroup", some baseException),
  (blockingIOError, "BlockingIOError", some osError),
  (brokenPipeError, "BrokenPipeError", some connectionError),
  (bufferError, "BufferError", some exception),
  (bytesWarning, "BytesWarning", some warning),
  (childProcessError, "ChildProcessError", some osError),
  (connectionAbortedError, "ConnectionAbortedError", some connectionError),
  (connectionError, "ConnectionError", some osError),
  (connectionRefusedError, "ConnectionRefusedError", some connectionError),
  (connectionResetError, "ConnectionResetError", some connectionError),
  (deprecationWarning, "DeprecationWarning", some warning),
  (eofError, "EOFError", some exception),
  (encodingWarning, "EncodingWarning", some warning),
  (exceptionGroup, "ExceptionGroup", some baseExceptionGroup),
  (fileExistsError, "FileExistsError", some osError),
  (fileNotFoundError, "FileNotFoundError", some osError),
  (floatingPointError, "FloatingPointError", some arithmeticError),
  (futureWarning, "FutureWarning", some warning),
  (generatorExit, "GeneratorExit", some baseException),
  (importError, "ImportError", some exception),
  (importWarning, "ImportWarning", some warning),
  (indentationError, "IndentationError", some syntaxError),
  (indexError, "IndexError", some lookupError),
  (interruptedError, "InterruptedError", some osError),
  (isADirectoryError, "IsADirectoryError", some osError),
  (keyError, "KeyError", some lookupError),
  (keyboardInterrupt, "KeyboardInterrupt", some baseException),
  (lookupError, "LookupError", some exception),
  (memoryError, "MemoryError", some exception),
  (moduleNotFoundError, "ModuleNotFoundError", some importError),
  (nameError, "NameError", some exception),
  (notADirectoryError, "NotADirectoryError", some osError),
  (notImplementedError, "NotImplementedError", some runtimeError),
  (osError, "OSError", some exception),
  (overflowError, "OverflowError", some arithmeticError),
  (pendingDeprecationWarning, "PendingDeprecationWarning", some warning),
  (permissionError, "PermissionError", some osError),
  (processLookupError, "ProcessLookupError", some osError),
  (recursionError, "RecursionError", some runtimeError),
  (referenceError, "ReferenceError", some exception),
  (resourceWarning, "ResourceWarning", some warning),
  (runtimeError, "RuntimeError", some exception),
  (runtimeWarning, "RuntimeWarning", some warning),
  (stopAsyncIteration, "StopAsyncIteration", some exception),
  (stopIteration, "StopIteration", some exception),
  (syntaxError, "SyntaxError", some exception),
  (syntaxWarning, "SyntaxWarning", some warning),
  (systemError, "SystemError", some exception),
  (systemExit, "SystemExit", some baseException),
  (tabError, "TabError", some indentationError),
  (timeoutError, "TimeoutError", some osError),
  (typeError, "TypeError", some exception),
  (unboundLocalError, "UnboundLocalError", some nameError),
  (unicodeDecodeError, "UnicodeDecodeError", some unicodeError),
  (unicodeEncodeError, "UnicodeEncodeError", some unicodeError),
  (unicodeError, "UnicodeError", some valueError),
  (unicodeTranslateError, "UnicodeTranslateError", some unicodeError),
  (unicodeWarning, "UnicodeWarning", some warning),
  (userWarning, "UserWarning", some warning),
  (valueError, "ValueError", some exception),
  (warning, "Warning", some exception),
  (zeroDivisionError, "ZeroDivisionError", some arithmeticError)]

def name (c : ExceptionClass) : String :=
  match table.lookup c with
  | some (n, _) => n
  | none => ""

def parent? (c : ExceptionClass) : Option ExceptionClass :=
  match table.lookup c with
  | some (_, p) => p
  | none => none

def ofName? (n : String) : Option ExceptionClass :=
  (table.find? fun e => e.2.1 = n).map (·.1)

/-- The class and at most `n` of the classes above it. -/
def upTo : (n : Nat) → ExceptionClass → List ExceptionClass
  | 0, c => [c]
  | n + 1, c =>
    match c.parent? with
    | some p => c :: upTo n p
    | none => [c]

/-- The class and all classes above it. An exception group is also an exception. -/
def lineage (c : ExceptionClass) : List ExceptionClass :=
  match c with
  | exceptionGroup => [exceptionGroup, baseExceptionGroup, exception, baseException]
  | c => upTo 5 c

/-- Whether every exception of class `c` is one of class `d`. -/
def isA (c d : ExceptionClass) : Bool := d ∈ c.lineage

theorem isA_self (c : ExceptionClass) : c.isA c := by cases c <;> decide

theorem isA_baseException (c : ExceptionClass) : c.isA baseException := by cases c <;> decide

end ExceptionClass

/-- The classes of values that are no exceptions. -/
inductive CoreClass
  | object | type | int | bool | float | str | bytes | list | tuple | dict | set | frozenset | range
  | slice | property | staticMethod | classMethod | super | enumerate | filter | map | zip | reversed
  | complex | byteArray | memoryView
  | function | builtinFunction | method | methodDescriptor | noneType | ellipsis | notImplemented
  | module | partialCall | textBuffer | textStream | iterator | generator | traceback | quitter
  | dictKeys | dictValues | dictItems | file
deriving DecidableEq, Repr, Inhabited

namespace CoreClass

/-- The classes that programs find by name. -/
def named : List (CoreClass × String) := [
  (object, "object"), (type, "type"), (int, "int"), (bool, "bool"), (float, "float"), (str, "str"),
  (bytes, "bytes"), (list, "list"), (tuple, "tuple"), (dict, "dict"), (set, "set"),
  (frozenset, "frozenset"), (range, "range"), (slice, "slice"), (property, "property"),
  (staticMethod, "staticmethod"), (classMethod, "classmethod"), (super, "super"),
  (enumerate, "enumerate"), (filter, "filter"), (map, "map"), (zip, "zip"), (reversed, "reversed"),
  (complex, "complex"), (byteArray, "bytearray"), (memoryView, "memoryview")]

/-- The other classes. -/
def unnamed : List (CoreClass × String) := [
  (function, "function"), (builtinFunction, "builtin_function_or_method"), (method, "method"),
  (methodDescriptor, "method_descriptor"), (noneType, "NoneType"), (ellipsis, "ellipsis"),
  (notImplemented, "NotImplementedType"), (module, "module"), (partialCall, "partial"),
  (textBuffer, "StringIO"), (textStream, "TextIOWrapper"), (iterator, "iterator"),
  (generator, "generator"), (traceback, "traceback"), (quitter, "Quitter"),
  (dictKeys, "dict_keys"), (dictValues, "dict_values"), (dictItems, "dict_items"),
  (file, "TextIOWrapper")]

def name (c : CoreClass) : String :=
  match (named ++ unnamed).lookup c with
  | some n => n
  | none => ""

/-- The module of a class, where it is not that of the builtins. -/
def module? : CoreClass → Option String
  | partialCall => some "functools"
  | textBuffer | textStream | file => some "_io"
  | quitter => some "_sitebuiltins"
  | _ => none

/-- The name that complaints about an instance show. -/
def typeName (c : CoreClass) : String :=
  match c with
  | quitter => c.name
  | c =>
    match c.module? with
    | some m => m ++ "." ++ c.name
    | none => c.name

/-- The class and all classes above it. -/
def lineage : CoreClass → List CoreClass
  | object => [object]
  | bool => [bool, int, object]
  | c => [c, object]

/-- Whether programs may derive classes from it. -/
def isBase : CoreClass → Bool
  | bool | range | slice | function | builtinFunction | method | methodDescriptor | noneType
  | ellipsis | notImplemented | iterator | generator | traceback | memoryView | dictKeys | dictValues
  | dictItems => false
  | _ => true

end CoreClass

/-- A class that every program finds. -/
inductive BuiltinClass
  | core (c : CoreClass)
  | exception (c : ExceptionClass)
deriving DecidableEq, Repr, Inhabited

namespace BuiltinClass

def name : BuiltinClass → String
  | core c => c.name
  | exception c => c.name

def module? : BuiltinClass → Option String
  | core c => c.module?
  | exception _ => none

def lineage : BuiltinClass → List BuiltinClass
  | core c => c.lineage.map core
  | exception c => c.lineage.map exception ++ [core .object]

def parent? : BuiltinClass → Option BuiltinClass
  | core .object => none
  | core .bool => some (core .int)
  | core _ => some (core .object)
  | exception c =>
    match c.parent? with
    | some p => some (exception p)
    | none => some (core .object)

def isBase : BuiltinClass → Bool
  | core c => c.isBase
  | exception _ => true

end BuiltinClass

/-- The exception class that the number of an operating system error stands for. -/
def ExceptionClass.ofErrno? : Int → Option ExceptionClass
  | 1 | 13 => some permissionError
  | 2 => some fileNotFoundError
  | 3 => some processLookupError
  | 4 => some interruptedError
  | 10 => some childProcessError
  | 11 | 114 | 115 => some blockingIOError
  | 17 => some fileExistsError
  | 20 => some notADirectoryError
  | 21 => some isADirectoryError
  | 32 | 108 => some brokenPipeError
  | 103 => some connectionAbortedError
  | 104 => some connectionResetError
  | 110 => some timeoutError
  | 111 => some connectionRefusedError
  | _ => none

end ThaiScript.Machine
