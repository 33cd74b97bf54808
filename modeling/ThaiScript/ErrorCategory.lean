import ThaiScript.Language

/-!
# Error categories

Ten kinds of runtime error have a message of their own in every language. An exception belongs to a
category when the name of its class is exactly that of the category; any other exception keeps its
own text.
-/

namespace ThaiScript

inductive ErrorCategory
  | nameNotFound
  | invalidStructure
  | typeMismatch
  | invalidValue
  | indexOutOfRange
  | keyNotFound
  | attributeNotFound
  | divisionByZero
  | importFailure
  | fileNotFound
deriving DecidableEq, Repr

namespace ErrorCategory

def all : List ErrorCategory := [
  nameNotFound, invalidStructure, typeMismatch, invalidValue, indexOutOfRange, keyNotFound,
  attributeNotFound, divisionByZero, importFailure, fileNotFound]

/-- The name of the exception class of a category. -/
def className : ErrorCategory → Text
  | nameNotFound => "NameError"
  | invalidStructure => "SyntaxError"
  | typeMismatch => "TypeError"
  | invalidValue => "ValueError"
  | indexOutOfRange => "IndexError"
  | keyNotFound => "KeyError"
  | attributeNotFound => "AttributeError"
  | divisionByZero => "ZeroDivisionError"
  | importFailure => "ImportError"
  | fileNotFound => "FileNotFoundError"

def ofClassName? (name : Text) : Option ErrorCategory :=
  all.find? fun c => c.className = name

theorem ofClassName?_className (c : ErrorCategory) : ofClassName? c.className = some c := by
  cases c <;> decide

def message (c : ErrorCategory) (l : Language) : Text :=
  (Catalog.find? l ("error." ++ c.className)).getD c.className

end ErrorCategory

/-- The message for an exception of class `name` whose own text is `text`. -/
def localize (l : Language) (name text : Text) : Text :=
  match ErrorCategory.ofClassName? name with
  | some c => c.message l
  | none => text

end ThaiScript
