import ThaiScript.Machine.Attribute
import ThaiScript.Machine.Hash
import ThaiScript.Text.Printable

/-!
# Texts of values

Every value has a text for readers and one that shows how it is written in a program. Strings are
quoted with single quotes, unless they hold one and no double quote.
-/

namespace ThaiScript.Machine

open Run

/-! ### Quoting -/

/-- A number in at least `width` hexadecimal digits. -/
def hexDigits (width n : Nat) : Text :=
  let ds := Nat.toDigits 16 n
  List.replicate (width - ds.length) '0' ++ ds

/-- How a code point is written between quotes. -/
def escapePoint (quote : Nat) (asciiOnly : Bool) (n : Nat) : Text :=
  if n = quote || n = 0x5C then ['\\', Char.ofNat n]
  else if n = 9 then ['\\', 't']
  else if n = 10 then ['\\', 'n']
  else if n = 13 then ['\\', 'r']
  else if 32 ≤ n && n < 127 then [Char.ofNat n]
  else if !asciiOnly && 127 < n && Text.isPrintable n then [Char.ofNat n]
  else if n < 0x100 then ['\\', 'x'] ++ hexDigits 2 n
  else if n < 0x10000 then ['\\', 'u'] ++ hexDigits 4 n
  else ['\\', 'U'] ++ hexDigits 8 n

def quoteMark (p : List Nat) : Char := if 39 ∈ p && 34 ∉ p then '"' else '\''

def quoted (p : Points) : Text :=
  let q := quoteMark p
  q :: p.flatMap (escapePoint q.toNat false) ++ [q]

def quotedBytes (bs : List Nat) : Text :=
  let q := quoteMark bs
  'b' :: q :: bs.flatMap (escapePoint q.toNat true) ++ [q]

/-! ### Texts of exceptions -/

/-- A code point by its number. -/
def pointEscape (n : Nat) : Text :=
  if n < 0x100 then ['\\', 'x'] ++ hexDigits 2 n
  else if n < 0x10000 then ['\\', 'u'] ++ hexDigits 4 n
  else ['\\', 'U'] ++ hexDigits 8 n

/-- The places from one up to another, where there are several, and why nothing is made of them. -/
def placesFailing (first last : Int) (reason : Text) : Text :=
  " in position " ++ Text.ofInt first ++ "-" ++ Text.ofInt (last - 1) ++ ": " ++ reason

/-- What is wrong with code points: with the only one, or with all from one place up to another. -/
def pointsFailing (verb : Text) (p : Points) (first last : Int) (reason : Text) : Text :=
  match p[first.toNat]?, decide (last = first + 1) with
  | some n, true =>
    verb ++ " character '" ++ pointEscape n ++ "' in position " ++ Text.ofInt first ++ ": " ++ reason
  | _, _ => verb ++ " characters" ++ placesFailing first last reason

/-- What an encoder says about code points that it cannot write. -/
def encodeFailure (codec : Text) (p : Points) (first last : Int) (reason : Text) : Text :=
  pointsFailing ("'" ++ codec ++ "' codec can't encode") p first last reason

/-- What a decoder says about bytes that it cannot read. -/
def decodeFailure (codec : Text) (bs : List Nat) (first last : Int) (reason : Text) : Text :=
  let verb := "'" ++ codec ++ "' codec can't decode"
  match bs[first.toNat]?, decide (last = first + 1) with
  | some n, true =>
    verb ++ " byte 0x" ++ hexDigits 2 n ++ " in position " ++ Text.ofInt first ++ ": " ++ reason
  | _, _ => verb ++ " bytes" ++ placesFailing first last reason

def commaSeparated (ps : List Points) : Points :=
  match ps with
  | [] => []
  | [p] => p
  | p :: ps => p ++ ps.flatMap fun q => [44, 32] ++ q

/-- A list of values in parentheses. -/
def reprTuple (ev : Evaluator) (vs : List Value) : Run Points := do
  match vs with
  | [v] => return [40] ++ (← ev.repr v) ++ [44, 41]
  | vs => return [40] ++ commaSeparated (← vs.mapM ev.repr) ++ [41]

/-! ### Texts of other values -/

/-- The place of an object, which texts show for want of anything else. -/
def address (r : Ref) : Text := "0x" ++ hexDigits 12 (0x7F0000000000 + 64 * r)

def intText (n : Int) : Run Points := do
  if isTooLong n then
    valueError ("Exceeds the limit (4300 digits) for integer string conversion; use " ++
      "sys.set_int_max_str_digits() to increase the limit")
  return (Text.ofInt n).points

/-- What a special method answers in place of a text. -/
def asText (method : Text) (v : Value) : Run Points := do
  match v with
  | .str p _ => return p
  | _ => typeError (method ++ " returned non-string (type " ++ (← typeName v) ++ ")")

/-- The value of a builtin class that an instance stands for. -/
def content? (v : Value) : Run (Option Value) := do
  match ← objectOf v with
  | .instance_ _ _ c => return c
  | _ => return none

/-- The value itself, or that of a builtin class that it stands for. -/
def content (v : Value) : Run Value := return (← content? v).getD v

def reprPairs (ev : Evaluator) : List (Value × Value) → Run (List Points)
  | [] => return []
  | (k, v) :: es => do
    let k ← ev.repr k
    let v ← ev.repr v
    return (k ++ [58, 32] ++ v) :: (← reprPairs ev es)

def brackets (left right : Char) (inside : Points) : Points := left.toNat :: inside ++ [right.toNat]

/-- The text of an object of a class that is not of the program. -/
def reprObject (ev : Evaluator) (r : Ref) (o : Object) : Run Points := do
  let standing (what : Text) : Points := Text.points ("<" ++ what ++ " at " ++ address r ++ ">")
  let plain (name : Text) : Points := standing (name ++ " object")
  match o with
  | .list items =>
    if items.isEmpty then return "[]"
    showing r "[...]" do
      return brackets '[' ']' (commaSeparated (← items.toList.mapM ev.repr))
  | .dict es =>
    if es.size = 0 then return "\x7b\x7d"
    showing r "\x7b...\x7d" do
      return brackets '\x7b' '\x7d' (commaSeparated (← reprPairs ev es.toList))
  | .set members frozen =>
    let name : Points := if frozen then "frozenset" else "set"
    if members.size = 0 then return name ++ "()"
    showing r (name ++ "(...)") do
      let inside ← members.toList.mapM ev.repr
      let shown := brackets '\x7b' '\x7d' (commaSeparated inside)
      return if frozen then name ++ "(" ++ shown ++ ")" else shown
  | .function f => return Text.points ("<function " ++ f.qualname ++ " at " ++ address r ++ ">")
  | .exception e =>
    let name ← className e.cls
    match e.args with
    | [v] => return name.points ++ [40] ++ (← ev.repr v) ++ [41]
    | vs => return name.points ++ (← reprTuple ev vs)
  | .iterator (.generated g) => return standing ("generator object " ++ g.qualname)
  | .iterator (.running n) | .iterator (.finished n) => return standing ("generator object " ++ n)
  | .iterator it => return plain it.className
  | .view kind d =>
    showing r "..." do
      let es ← entries d
      let inside ← match kind with
        | .keys => es.toList.mapM fun e => ev.repr e.1
        | .values => es.toList.mapM fun e => ev.repr e.2
        | .items => es.toList.mapM fun e => reprTuple ev [e.1, e.2]
      return Text.points (kind.cls.name : Text) ++ "([" ++ commaSeparated inside ++ "])"
  | .module name _ =>
    if name = "sys".toList || name = "builtins".toList then
      return Text.points ("<module '" ++ name ++ "' (built-in)>")
    else return Text.points ("<module '" ++ name ++ "'>")
  | .stream isError _ =>
    return if isError then "<_io.TextIOWrapper name='<stderr>' mode='w' encoding='utf-8'>"
      else "<_io.TextIOWrapper name='<stdout>' mode='w' encoding='utf-8'>"
  | .file name _ _ =>
    return Text.points ("<_io.TextIOWrapper name=" ++ quoted name.points ++ " mode='r' encoding='UTF-8'>")
  | .staticMethod f => return "<staticmethod(" ++ (← ev.repr f) ++ ")>"
  | .classMethod f => return "<classmethod(" ++ (← ev.repr f) ++ ")>"
  | .super after self _ =>
    return Text.points ("<super: <class '" ++ (← className after) ++ "'>, <" ++ (← typeName self) ++
      " object>>")
  | .quitter name => return Text.points ("Use " ++ name ++ "() or Ctrl-D (i.e. EOF) to exit")
  | o => return plain (← classPath o.cls?)

/-- The text of a value as classes that are not of the program define it. -/
def reprBuiltin (ev : Evaluator) (v : Value) : Run Points := do
  match v with
  | .none => return "None"
  | .ellipsis => return "Ellipsis"
  | .notImplemented => return "NotImplemented"
  | .bool b => return if b then "True" else "False"
  | .int n _ => intText n
  | .float x _ => return (Decimal.floatText x).points
  | .complex z _ => return z.text.points
  | .str p _ => return (quoted p).points
  | .bytes bs _ => return (quotedBytes bs).points
  | .tuple vs _ => reprTuple ev vs
  | .slice a b c =>
    return "slice(" ++ commaSeparated [← ev.repr a, ← ev.repr b, ← ev.repr c] ++ ")"
  | .range a b c =>
    let step : Text := if c = 1 then [] else ", " ++ Text.ofInt c
    return Text.points ("range(" ++ Text.ofInt a ++ ", " ++ Text.ofInt b ++ step ++ ")")
  | .cls c => return Text.points ("<class '" ++ (← classPath c) ++ "'>")
  | .builtin n => return Text.points ("<built-in function " ++ lastName n ++ ">")
  | .member c n => return Text.points ("<method '" ++ n ++ "' of '" ++ c.name ++ "' objects>")
  | .bound self _ n =>
    let place := match self with
      | .ref r => address r
      | _ => address 0
    return Text.points ("<built-in method " ++ n ++ " of " ++ (← typeName self) ++ " object at " ++
      place ++ ">")
  | .method f self =>
    let name : Text := match ← objectOf f with
      | .function g => g.qualname
      | _ => "?"
    return Text.points ("<bound method " ++ name ++ " of ") ++ (← ev.repr self) ++ [62]
  | .partialCall f args keywords =>
    let args ← args.mapM ev.repr
    let keywords ← keywords.mapM fun (k, v) => do return k.points ++ [61] ++ (← ev.repr v)
    return "functools.partial(" ++ commaSeparated ((← ev.repr f) :: args ++ keywords) ++ ")"
  | .ref r =>
    match ← object r with
    | .instance_ c _ (some inside) =>
      match ← coreKind c with
      | .set | .frozenset => return (← className c).points ++ "(" ++ (← ev.repr inside) ++ ")"
      | _ => ev.repr inside
    | .instance_ c _ none =>
      return Text.points ("<" ++ (← classPath c) ++ " object at " ++ address r ++ ">")
    | o => reprObject ev r o

/-- The text of a value as its class defines it. -/
def reprByClass (ev : Evaluator) (v : Value) : Run Points := do
  match ← special? v "__repr__" with
  | some f => asText "__repr__" (← ev.call (← bind ev v (← classOf v) f) [] [])
  | none => reprBuiltin ev v

/-- The text that shows how a value is written. -/
def reprOf (ev : Evaluator) (v : Value) : Run Points :=
  nested " while getting the repr of an object" (reprByClass ev v)

/-- The text of an exception as builtin classes define it. -/
def exceptionText (ev : Evaluator) (textOf : Value → Run Points) (e : ExceptionObject) :
    Run Points := do
  let plain : Run Points := do
    match e.args with
    | [] => return []
    | [v] => textOf v
    | vs => reprTuple ev vs
  let slot (name : Text) : Value := (e.slots.find? name).getD .none
  if e.kind.isA .keyError then
    match e.args with
    | [v] => ev.repr v
    | _ => plain
  else if e.kind.isA .osError then
    match slot "errno", slot "strerror" with
    | .none, _ => plain
    | _, .none => plain
    | n, text =>
      let head : Points := "[Errno " ++ (← textOf n) ++ "] " ++ (← textOf text)
      match slot "filename", slot "filename2" with
      | .none, _ => return head
      | name, .none => return head ++ ": " ++ (← ev.repr name)
      | name, other => return head ++ ": " ++ (← ev.repr name) ++ " -> " ++ (← ev.repr other)
  else if e.kind.isA .syntaxError then
    let message ← textOf (slot "msg")
    let file (f : Points) : Points := (f.reverse.takeWhile (· ≠ 47)).reverse
    let line (n : Int) : Points := "line " ++ (Text.ofInt n).points
    match slot "filename", slot "lineno" with
    | .str f _, .int n _ => return message ++ " (" ++ file f ++ ", " ++ line n ++ ")"
    | .str f _, _ => return message ++ " (" ++ file f ++ ")"
    | _, .int n _ => return message ++ " (" ++ line n ++ ")"
    | _, _ => return message
  else if e.kind.isA .importError then
    match slot "msg" with
    | .str p _ => return p
    | _ => plain
  else if e.kind.isA .unicodeEncodeError then
    match slot "encoding", slot "object", slot "start", slot "end", slot "reason" with
    | .str codec _, .str p _, .int first _, .int last _, .str reason _ =>
      return (encodeFailure codec.lossy p first last reason.lossy).points
    | _, _, _, _, _ => plain
  else if e.kind.isA .unicodeDecodeError then
    match slot "encoding", slot "object", slot "start", slot "end", slot "reason" with
    | .str codec _, .bytes bs _, .int first _, .int last _, .str reason _ =>
      return (decodeFailure codec.lossy bs first last reason.lossy).points
    | _, _, _, _, _ => plain
  else if e.kind.isA .unicodeTranslateError then
    match slot "object", slot "start", slot "end", slot "reason" with
    | .str p _, .int first _, .int last _, .str reason _ =>
      return (pointsFailing "can't translate" p first last reason.lossy).points
    | _, _, _, _ => plain
  else if e.kind.isA .baseExceptionGroup then
    match slot "message", slot "exceptions" with
    | message, .tuple es _ =>
      let plural : Text := if es.length = 1 then [] else ['s']
      return (← textOf message) ++ Text.points (" (" ++ Text.ofNat es.length ++ " sub-exception" ++
        plural ++ ")")
    | _, _ => plain
  else plain

/-- The text of an instance as builtin classes define it. -/
def textBuiltin (ev : Evaluator) (textOf : Value → Run Points) (v : Value) : Run Points := do
  match v with
  | .str p _ => return p
  | _ =>
    match ← objectOf v with
    | .exception e => exceptionText ev textOf e
    | .instance_ _ _ (some (.str p _)) =>
      match ← special? v "__repr__" with
      | some _ => reprByClass ev v
      | none => return p
    | _ => reprByClass ev v

/-- The text of a value for readers. Texts inside of it are made by the same rule, to a depth. -/
def textAt (ev : Evaluator) : (depth : Nat) → Value → Run Points
  | 0, v => ev.repr v
  | depth + 1, v => do
    match v with
    | .str p _ => return p
    | _ =>
      nested " while getting the str of an object" do
        match ← special? v "__str__" with
        | some f => asText "__str__" (← ev.call (← bind ev v (← classOf v) f) [] [])
        | none => textBuiltin ev (textAt ev depth) v

def textOf (ev : Evaluator) (v : Value) : Run Points := textAt ev depthLimit v

end ThaiScript.Machine
