import ThaiScript.Machine.Class

/-!
# Members of builtin classes

The methods that each class brings itself. A class also has those of the classes above it.
-/

namespace ThaiScript.Machine

namespace CoreClass

def ownMembers : CoreClass → List String
  | object => [
      "__init__", "__new__", "__repr__", "__str__", "__eq__", "__ne__", "__hash__", "__setattr__",
      "__getattribute__", "__delattr__", "__format__", "__init_subclass__", "__lt__", "__le__", "__gt__",
      "__ge__", "__dir__"]
  | type => ["mro", "__call__"]
  | int => [
      "bit_length", "bit_count", "conjugate", "to_bytes", "as_integer_ratio", "__add__", "__sub__",
      "__mul__", "__truediv__", "__floordiv__", "__mod__", "__pow__", "__neg__", "__abs__", "__int__",
      "__index__", "__float__", "__bool__", "__and__", "__or__", "__xor__", "__lshift__", "__rshift__",
      "__invert__", "__pos__", "__divmod__", "__round__"]
  | float => [
      "is_integer", "conjugate", "as_integer_ratio", "hex", "__add__", "__sub__", "__mul__",
      "__truediv__", "__floordiv__", "__mod__", "__pow__", "__neg__", "__abs__", "__int__", "__float__",
      "__bool__", "__pos__", "__divmod__", "__round__"]
  | str => [
      "upper", "lower", "strip", "lstrip", "rstrip", "split", "rsplit", "join", "replace", "startswith",
      "endswith", "find", "rfind", "index", "rindex", "count", "format", "format_map", "isdigit",
      "isdecimal", "isnumeric", "isalpha", "isalnum", "isspace", "isupper", "islower", "istitle",
      "isidentifier", "isprintable", "isascii", "title", "capitalize", "swapcase", "casefold", "center",
      "ljust", "rjust", "zfill", "encode", "splitlines", "partition", "rpartition", "removeprefix",
      "removesuffix", "expandtabs", "translate", "maketrans", "__len__", "__getitem__", "__contains__",
      "__iter__", "__add__", "__mul__", "__mod__"]
  | bytes => ["decode", "hex", "__len__", "__getitem__", "__contains__", "__iter__", "__add__", "__mul__"]
  | list => [
      "append", "extend", "insert", "remove", "pop", "clear", "index", "count", "sort", "reverse", "copy",
      "__len__", "__getitem__", "__setitem__", "__delitem__", "__contains__", "__iter__", "__add__",
      "__mul__", "__reversed__"]
  | tuple => ["index", "count", "__len__", "__getitem__", "__contains__", "__iter__", "__add__", "__mul__"]
  | dict => [
      "get", "keys", "values", "items", "pop", "popitem", "setdefault", "update", "clear", "copy",
      "fromkeys", "__len__", "__getitem__", "__setitem__", "__delitem__", "__contains__", "__iter__",
      "__or__"]
  | set => [
      "add", "remove", "discard", "pop", "clear", "copy", "union", "intersection", "difference",
      "symmetric_difference", "update", "intersection_update", "difference_update",
      "symmetric_difference_update", "issubset", "issuperset", "isdisjoint", "__len__", "__contains__",
      "__iter__", "__or__", "__and__", "__sub__", "__xor__"]
  | frozenset => [
      "copy", "union", "intersection", "difference", "symmetric_difference", "issubset", "issuperset",
      "isdisjoint", "__len__", "__contains__", "__iter__", "__or__", "__and__", "__sub__", "__xor__"]
  | range => ["index", "count", "__len__", "__getitem__", "__contains__", "__iter__"]
  | property => ["getter", "setter", "deleter"]
  | function => ["__call__", "__get__"]
  | builtinFunction => ["__call__"]
  | method => ["__call__"]
  | iterator => ["__next__", "__iter__"]
  | generator => ["__next__", "__iter__", "close", "send"]
  | dictKeys => ["isdisjoint", "__len__", "__contains__", "__iter__"]
  | dictValues => ["__len__", "__iter__"]
  | dictItems => ["isdisjoint", "__len__", "__contains__", "__iter__"]
  | textBuffer => [
      "write", "getvalue", "close", "flush", "read", "readline", "seek", "tell", "truncate", "isatty",
      "readable", "writable", "seekable", "__enter__", "__exit__", "writelines"]
  | textStream => [
      "write", "flush", "close", "fileno", "isatty", "readable", "writable", "seekable", "reconfigure",
      "writelines", "__enter__", "__exit__"]
  | file => ["read", "readline", "readlines", "close", "flush", "__enter__", "__exit__", "__iter__", "__next__"]
  | _ => []

end CoreClass

namespace ExceptionClass

def ownMembers : ExceptionClass → List String
  | baseException => ["with_traceback", "add_note"]
  | _ => []

end ExceptionClass

namespace BuiltinClass

def ownMembers : BuiltinClass → List String
  | core c => c.ownMembers
  | exception c => c.ownMembers

end BuiltinClass

end ThaiScript.Machine
