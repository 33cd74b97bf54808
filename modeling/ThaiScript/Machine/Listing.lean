import ThaiScript.Machine.Method.Collections

/-!
# Listing the attributes of values

The names that a value lists: its own, those in its class and those in the classes above it. More
names are listed than programs here can do something with.
-/

namespace ThaiScript.Machine

open Run

/-- The words of a text. -/
def wordsOf (s : String) : List String :=
  (s.splitToList fun c => c = ' ' || c = '\n').filter (· ≠ "")

namespace CoreClass

/-- The names that a class lists besides its methods and those of every value. -/
def furtherNames : CoreClass → List String
  | object => wordsOf
      "__class__ __delattr__ __dir__ __doc__ __eq__ __format__ __ge__ __getattribute__ __getstate__
      __gt__ __hash__ __init__ __init_subclass__ __le__ __lt__ __ne__ __new__ __reduce__ __reduce_ex__
      __repr__ __setattr__ __sizeof__ __str__ __subclasshook__"
  | type => wordsOf
      "__abstractmethods__ __annotations__ __base__ __bases__ __basicsize__ __call__ __dict__
      __dictoffset__ __flags__ __instancecheck__ __itemsize__ __module__ __mro__ __name__ __or__
      __prepare__ __qualname__ __ror__ __subclasscheck__ __subclasses__ __text_signature__
      __weakrefoffset__ mro"
  | int | bool => wordsOf
      "__abs__ __add__ __and__ __bool__ __ceil__ __divmod__ __float__ __floor__ __floordiv__
      __getnewargs__ __index__ __int__ __invert__ __lshift__ __mod__ __mul__ __neg__ __or__ __pos__
      __pow__ __radd__ __rand__ __rdivmod__ __rfloordiv__ __rlshift__ __rmod__ __rmul__ __ror__
      __round__ __rpow__ __rrshift__ __rshift__ __rsub__ __rtruediv__ __rxor__ __sub__ __truediv__
      __trunc__ __xor__ as_integer_ratio bit_count bit_length conjugate denominator from_bytes imag
      numerator real to_bytes"
  | float => wordsOf
      "__abs__ __add__ __bool__ __ceil__ __divmod__ __float__ __floor__ __floordiv__ __getformat__
      __getnewargs__ __int__ __mod__ __mul__ __neg__ __pos__ __pow__ __radd__ __rdivmod__
      __rfloordiv__ __rmod__ __rmul__ __round__ __rpow__ __rsub__ __rtruediv__ __sub__ __truediv__
      __trunc__ as_integer_ratio conjugate fromhex hex imag is_integer real"
  | complex => wordsOf
      "__abs__ __add__ __bool__ __complex__ __getnewargs__ __mul__ __neg__ __pos__ __pow__ __radd__
      __rmul__ __rpow__ __rsub__ __rtruediv__ __sub__ __truediv__ conjugate imag real"
  | str => wordsOf
      "__add__ __contains__ __getitem__ __getnewargs__ __iter__ __len__ __mod__ __mul__ __rmod__
      __rmul__ capitalize casefold center count encode endswith expandtabs find format format_map
      index isalnum isalpha isascii isdecimal isdigit isidentifier islower isnumeric isprintable
      isspace istitle isupper join ljust lower lstrip maketrans partition removeprefix removesuffix
      replace rfind rindex rjust rpartition rsplit rstrip split splitlines startswith strip swapcase
      title translate upper zfill"
  | bytes => wordsOf
      "__add__ __bytes__ __contains__ __getitem__ __getnewargs__ __iter__ __len__ __mod__ __mul__
      __rmod__ __rmul__ capitalize center count decode endswith expandtabs find fromhex hex index
      isalnum isalpha isascii isdigit islower isspace istitle isupper join ljust lower lstrip maketrans
      partition removeprefix removesuffix replace rfind rindex rjust rpartition rsplit rstrip split
      splitlines startswith strip swapcase title translate upper zfill"
  | list => wordsOf
      "__add__ __class_getitem__ __contains__ __delitem__ __getitem__ __iadd__ __imul__ __iter__ __len__
      __mul__ __reversed__ __rmul__ __setitem__ append clear copy count extend index insert pop remove
      reverse sort"
  | tuple => wordsOf
      "__add__ __class_getitem__ __contains__ __getitem__ __getnewargs__ __iter__ __len__ __mul__
      __rmul__ count index"
  | dict => wordsOf
      "__class_getitem__ __contains__ __delitem__ __getitem__ __ior__ __iter__ __len__ __or__
      __reversed__ __ror__ __setitem__ clear copy fromkeys get items keys pop popitem setdefault update
      values"
  | set => wordsOf
      "__and__ __class_getitem__ __contains__ __iand__ __ior__ __isub__ __iter__ __ixor__ __len__ __or__
      __rand__ __ror__ __rsub__ __rxor__ __sub__ __xor__ add clear copy difference difference_update
      discard intersection intersection_update isdisjoint issubset issuperset pop remove
      symmetric_difference symmetric_difference_update union update"
  | frozenset => wordsOf
      "__and__ __class_getitem__ __contains__ __iter__ __len__ __or__ __rand__ __ror__ __rsub__ __rxor__
      __sub__ __xor__ copy difference intersection isdisjoint issubset issuperset symmetric_difference
      union"
  | range => wordsOf
      "__bool__ __contains__ __getitem__ __iter__ __len__ __reversed__ count index start step stop"
  | slice => wordsOf "indices start step stop"
  | property => wordsOf
      "__delete__ __get__ __isabstractmethod__ __set__ __set_name__ deleter fdel fget fset getter setter"
  | staticMethod | classMethod => wordsOf
      "__annotations__ __call__ __dict__ __func__ __get__ __isabstractmethod__ __module__ __name__
      __qualname__ __wrapped__"
  | super => wordsOf "__get__ __self__ __self_class__ __thisclass__"
  | enumerate => wordsOf "__class_getitem__ __iter__ __next__"
  | filter | map | zip => wordsOf "__iter__ __next__"
  | reversed | iterator => wordsOf "__iter__ __length_hint__ __next__ __setstate__"
  | function => wordsOf
      "__annotations__ __builtins__ __call__ __closure__ __code__ __defaults__ __dict__ __get__
      __globals__ __kwdefaults__ __module__ __name__ __qualname__"
  | builtinFunction => wordsOf "__call__ __module__ __name__ __qualname__ __self__ __text_signature__"
  | method => wordsOf "__call__ __func__ __get__ __self__"
  | methodDescriptor => wordsOf
      "__call__ __get__ __name__ __objclass__ __qualname__ __text_signature__"
  | noneType => wordsOf "__bool__"
  | partialCall => wordsOf
      "__call__ __class_getitem__ __dict__ __dictoffset__ __setstate__ __vectorcalloffset__
      __weaklistoffset__ args func keywords"
  | textBuffer => wordsOf
      "__del__ __dict__ __enter__ __exit__ __iter__ __next__ __setstate__ _checkClosed _checkReadable
      _checkSeekable _checkWritable close closed detach encoding errors fileno flush getvalue isatty
      line_buffering newlines read readable readline readlines seek seekable tell truncate writable
      write writelines"
  | textStream | file => wordsOf
      "_CHUNK_SIZE __del__ __dict__ __enter__ __exit__ __iter__ __next__ _checkClosed _checkReadable
      _checkSeekable _checkWritable _finalizing buffer close closed detach encoding errors fileno flush
      isatty line_buffering mode name newlines read readable readline readlines reconfigure seek seekable
      tell truncate writable write write_through writelines"
  | generator => wordsOf
      "__del__ __iter__ __name__ __next__ __qualname__ close gi_code gi_frame gi_running gi_suspended
      gi_yieldfrom send throw"
  | traceback => wordsOf "tb_frame tb_lasti tb_lineno tb_next"
  | quitter => wordsOf "__call__ __dict__ __module__ __weakref__ eof name"
  | dictKeys | dictItems => wordsOf
      "__and__ __contains__ __iter__ __len__ __or__ __rand__ __reversed__ __ror__ __rsub__ __rxor__
      __sub__ __xor__ isdisjoint mapping"
  | dictValues => wordsOf "__iter__ __len__ __reversed__ mapping"
  | ellipsis | notImplemented | module | byteArray | memoryView => []

end CoreClass

namespace ExceptionClass

def furtherNames : ExceptionClass → List String
  | baseException => wordsOf
      "__cause__ __context__ __dict__ __setstate__ __suppress_context__ __traceback__ add_note args
      with_traceback"
  | baseExceptionGroup => wordsOf "__class_getitem__ derive exceptions message split subgroup"
  | exceptionGroup => wordsOf "__module__ __weakref__"
  | osError => wordsOf "characters_written errno filename filename2 strerror"
  | syntaxError => wordsOf
      "end_lineno end_offset filename lineno msg offset print_file_and_line text"
  | unicodeDecodeError | unicodeEncodeError | unicodeTranslateError => wordsOf
      "encoding end object reason start"
  | stopIteration => ["value"]
  | systemExit => ["code"]
  | importError => wordsOf "msg name path"
  | nameError => ["name"]
  | attributeError => wordsOf "name obj"
  | _ => []

end ExceptionClass

/-- The names that stand in a class. -/
def namesInClass (c : ClassId) : Run (List Text) := do
  match c with
  | .builtin (.core b) => return b.furtherNames.map String.toList
  | .builtin (.exception b) => return b.furtherNames.map String.toList
  | .user _ =>
    let named := ((← userClass? c).map fun u => u.attrs.map (·.1)).getD []
    return named ++ ["__dict__".toList, "__doc__".toList, "__module__".toList, "__weakref__".toList]

/-- The names of the attributes of a value, sorted. -/
def attributeNames (v : Value) : Run (List Text) := do
  let sorted (names : List Text) : List Text :=
    names.eraseDups.mergeSort fun a b => !decide (b < a)
  let o ← objectOf v
  match o with
  | .module _ attrs => return sorted ((← entries attrs).names.map (·.1))
  | _ =>
    let own ← match o with
      | .function f => pure f.attrs
      | _ => do pure ((← instanceNames v).getD [])
    let cls ← match v with
      | .cls c => pure c
      | _ => classOf v
    return sorted (own.map (·.1) ++ (← (← classOrder cls).mapM namesInClass).flatten)

/-- What a value lists, sorted: what its class answers, or else the names of its attributes. -/
def directory (ev : Evaluator) (v : Value) : Run (List Value) := do
  match ← callSpecial? ev v "__dir__" [] with
  | some listed => sortValues ev (← itemsOf ev listed) .none false
  | none => return (← attributeNames v).map Value.ofText

end ThaiScript.Machine
