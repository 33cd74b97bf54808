import ThaiScript.Encoding.Utf8
import ThaiScript.Machine.Arguments
import ThaiScript.Text.Case

/-!
# Methods of strings
-/

namespace ThaiScript.Machine

open Run

/-- The place of the first occurrence, counted from `i`. -/
def findFrom (q : Points) : (i : Nat) → Points → Option Nat
  | i, [] => if q.isEmpty then some i else none
  | i, n :: p => if q.isPrefixOf (n :: p) then some i else findFrom q (i + 1) p

/-- The place of the last occurrence, counted from `i`. -/
def findLast (q : Points) : (i : Nat) → Points → Option Nat
  | i, [] => if q.isEmpty then some i else none
  | i, n :: p =>
    match findLast q (i + 1) p with
    | some j => some j
    | none => if q.isPrefixOf (n :: p) then some i else none

/-- How often `q`, which is not empty, occurs without overlapping. `skip` counts what is left of the
occurrence before. -/
def countIn (q : Points) : (skip : Nat) → Points → Nat
  | _, [] => 0
  | skip + 1, _ :: p => countIn q skip p
  | 0, n :: p => if q.isPrefixOf (n :: p) then countIn q (q.length - 1) p + 1 else countIn q 0 p

/-- Splits at most `limit` times at `q`, which is not empty. The piece at hand is reversed. -/
def splitAt (q : Points) : (limit : Nat) → (skip : Nat) → (piece : Points) → Points → List Points
  | _, _, piece, [] => [piece.reverse]
  | limit, skip + 1, piece, _ :: p => splitAt q limit skip piece p
  | 0, 0, piece, n :: p => [piece.reverse ++ n :: p]
  | limit + 1, 0, piece, n :: p =>
    if q.isPrefixOf (n :: p) then piece.reverse :: splitAt q limit (q.length - 1) [] p
    else splitAt q (limit + 1) 0 (n :: piece) p

/-- Splits at most `limit` times at spaces. -/
def splitWords : (limit : Nat) → (piece : Points) → Points → List Points
  | _, piece, [] => if piece.isEmpty then [] else [piece.reverse]
  | limit, piece, n :: p =>
    if Points.isSpace n then
      if piece.isEmpty then splitWords limit [] p
      else piece.reverse :: splitWords (limit - 1) [] p
    else if piece.isEmpty && limit = 0 then [Points.stripRight (n :: p) Points.isSpace]
    else splitWords limit (n :: piece) p

/-- Replaces at most `limit` occurrences. An empty `q` occurs before every code point and at the
end. -/
def replaceIn (q by_ : Points) : (limit : Nat) → (skip : Nat) → Points → Points
  | limit, _, [] => if q.isEmpty && 0 < limit then by_ else []
  | limit, skip + 1, _ :: p => replaceIn q by_ limit skip p
  | 0, 0, p => p
  | limit + 1, 0, n :: p =>
    if q.isEmpty then by_ ++ n :: replaceIn q by_ limit 0 p
    else if q.isPrefixOf (n :: p) then by_ ++ replaceIn q by_ limit (q.length - 1) p
    else n :: replaceIn q by_ (limit + 1) 0 p

def isLineEnd (n : Nat) : Bool :=
  n = 10 || n = 11 || n = 12 || n = 13 || n = 28 || n = 29 || n = 30 || n = 0x85 || n = 0x2028 ||
    n = 0x2029

/-- The lines of a text; `\r\n` ends one line. -/
def splitLines (keepEnds : Bool) : (piece : Points) → Points → List Points
  | piece, [] => if piece.isEmpty then [] else [piece.reverse]
  | piece, 13 :: 10 :: p =>
    (piece.reverse ++ if keepEnds then [13, 10] else []) :: splitLines keepEnds [] p
  | piece, n :: p =>
    if isLineEnd n then (piece.reverse ++ if keepEnds then [n] else []) :: splitLines keepEnds [] p
    else splitLines keepEnds (n :: piece) p

def joinPoints (sep : Points) : List Points → Points
  | [] => []
  | [p] => p
  | p :: ps => p ++ sep ++ joinPoints sep ps

/-- The UTF-8 form of code points without surrogates. -/
def encodePoints (p : Points) : List Nat := Utf8.encode p.lossy

def unicodeFailure {α : Type} (codec : Text) (p : Points) (first last : Nat) (reason : Text) :
    Run α := do
  let args : List Value := [.ofText codec, .str p, .int first, .int last, .ofText reason]
  let e := exceptionOf .unicodeEncodeError args
  let names : List Text := ["encoding", "object", "start", "end", "reason"]
  raise (← alloc (.exception { e with slots := names.zip args }))

/-- Raises an exception if no text stands for the code points. -/
def requireEncodable (p : Points) : Run Unit := do
  match p.surrogateRun? with
  | some (i, n) => unicodeFailure "utf-8" p i (i + n) "surrogates not allowed"
  | none => return

def encodeText (p : Points) (codec : Text) : Run Value := do
  let name := (codec.map fun c => if c = '_' then '-' else c).map Char.toLower
  let narrow (bound : Nat) (shown reason : Text) : Run Value := do
    match p.findIdx? (bound ≤ ·) with
    | some i =>
      let n := ((p.drop i).takeWhile (bound ≤ ·)).length
      unicodeFailure shown p i (i + n) reason
    | none => return .bytes p
  if name = "utf-8".toList || name = "utf8".toList then
    requireEncodable p
    return .bytes (encodePoints p)
  else if name = "ascii".toList || name = "us-ascii".toList then
    narrow 128 "ascii" "ordinal not in range(128)"
  else if name = "latin-1".toList || name = "iso-8859-1".toList || name = "latin1".toList then
    narrow 256 "latin-1" "ordinal not in range(256)"
  else fail .lookupError ("unknown encoding: " ++ codec)

def fillLeft (p : Points) (width : Int) (fill : Nat) : Points :=
  List.replicate (width.toNat - p.length) fill ++ p

def fillRight (p : Points) (width : Int) (fill : Nat) : Points :=
  p ++ List.replicate (width.toNat - p.length) fill

/-- Fills on both sides. What is left over goes to the left if the width is odd. -/
def fillBoth (p : Points) (width : Int) (fill : Nat) : Points :=
  let w := width.toNat
  let missing := w - p.length
  let left := missing / 2 + missing % 2 * (w % 2)
  List.replicate left fill ++ p ++ List.replicate (missing - left) fill

def zeroFill (p : Points) (width : Int) : Points :=
  match p with
  | n :: rest =>
    if n = 43 || n = 45 then n :: fillLeft rest (width - 1) 48 else fillLeft p width 48
  | [] => fillLeft [] width 48

def expandTabs (size : Nat) : (column : Nat) → Points → Points
  | _, [] => []
  | column, n :: p =>
    if n = 9 then
      let k := if size = 0 then 0 else size - column % size
      List.replicate k 32 ++ expandTabs size (column + k) p
    else n :: expandTabs size (if n = 10 || n = 13 then 0 else column + 1) p

def textValues (ps : List Points) : Run Value := newList (ps.map .str)

/-- The places to split at: a text, or none for spaces. -/
def splitText (ev : Evaluator) (p : Points) (fromRight : Bool) (args : List Value)
    (keywords : Keywords) : Run Value := do
  let sep := (argument? args keywords 0 "sep").getD .none
  let limit ← match argument? args keywords 1 "maxsplit" with
    | some v => index ev v
    | none => pure (-1)
  let limit := if limit < 0 then p.length + 1 else limit.toNat
  match sep with
  | .none =>
    if fromRight then
      textValues ((splitWords limit [] p.reverse).map List.reverse).reverse
    else textValues (splitWords limit [] p)
  | v =>
    let q ← textArgument "must be str or None, not " v
    if q.isEmpty then valueError "empty separator"
    if fromRight then
      textValues ((splitAt q.reverse limit 0 [] p.reverse).map List.reverse).reverse
    else textValues (splitAt q limit 0 [] p)

def joinTexts (ev : Evaluator) (sep : Points) (v : Value) : Run Value := do
  let it ← rescue .typeError (iteratorOf ev v) fun _ => typeError "can only join an iterable"
  let vs ← itemsOf ev it
  let ps ← vs.zipIdx.mapM fun (v, i) => do
    match ← content v with
    | .str p _ => return p
    | _ =>
      typeError ("sequence item " ++ Text.ofNat i ++ ": expected str instance, " ++
        (← typeName v) ++ " found")
  return .str (joinPoints sep ps)

/-- Whether a text begins or ends with a text, or with one of several. -/
def matchesEnd (ev : Evaluator) (name : Text) (p : Points) (test : Points → Points → Bool)
    (args : List Value) : Run Value := do
  let (start, stop) ← searchBounds ev p.length (args.drop 1)
  let part := (p.take stop).drop start
  let possible := start ≤ p.length
  let one (v : Value) : Run Bool := do
    match ← content v with
    | .str q _ => return possible && test q part
    | _ =>
      typeError (name ++ " first arg must be str or a tuple of str, not " ++ (← typeName v))
  match args.headD .none with
  | .tuple vs _ => return .bool (← vs.anyM one)
  | v => return .bool (← one v)

/-- Searches in a part of a text. -/
def searchText (ev : Evaluator) (p : Points) (find : Points → Nat → Points → Option Nat)
    (args : List Value) : Run (Option Nat) := do
  let q ← textArgument "must be str, not " (args.headD .none)
  let (start, stop) ← searchBounds ev p.length (args.drop 1)
  if stop < start then return none
  return find q start ((p.take stop).drop start)

def stripWith (name : Text) (p : Points) (strip : Points → (Nat → Bool) → Points)
    (args : List Value) : Run Value := do
  match args.headD .none with
  | .none => return .str (strip p Points.isSpace)
  | v =>
    let q ← textArgument (name ++ " arg must be None or str, not ") v
    return .str (strip p fun n => n ∈ (q : List Nat))

/-- A text in three parts: before, at and behind an occurrence. -/
def partitionAt (p : Points) (fromRight : Bool) (v : Value) : Run Value := do
  let q ← textArgument "must be str, not " v
  if q.isEmpty then valueError "empty separator"
  match if fromRight then findLast q 0 p else findFrom q 0 p with
  | some i => return .tuple [.str (p.take i), .str q, .str (p.drop (i + q.length))]
  | none => return .tuple (if fromRight then [.str [], .str [], .str p] else [.str p, .str [], .str []])

/-- The filling of a text that is brought to a width. -/
def fillArgument (v : Option Value) : Run Nat := do
  match v with
  | none => return 32
  | some v =>
    match ← content v with
    | .str [n] _ => return n
    | _ => typeError "The fill character must be exactly one character long"

def translateText (ev : Evaluator) (p : Points) (table : Value) : Run Value := do
  let one (n : Nat) : Run Points := do
    let found : Run (Option Value) := do return some (← getItem ev table (.int n))
    match ← rescue .lookupError found fun _ => return none with
    | none => return [n]
    | some .none => return []
    | some (.int k _) => return [k.toNat]
    | some (.str q _) => return q
    | some _ => typeError "character mapping must return integer, None or str"
  return .str (← p.mapM one).flatten

def textMethod (ev : Evaluator) (name : String) (p : Points) (args : List Value)
    (keywords : Keywords) : Run Value := do
  let path : Text := "str." ++ name
  let plain (least most : Nat) : Run Unit := requireArguments path least most args keywords
  let test (f : Points → Bool) : Run Value := do
    plain 0 0
    return .bool (f p)
  let all (f : Nat → Bool) : Run Value := test fun p => !p.isEmpty && p.all f
  let change (f : Points → Points) : Run Value := do
    plain 0 0
    return .str (f p)
  let arg (i : Nat) : Value := args.getD i .none
  match name with
  | "upper" => change Points.upper
  | "lower" => change Points.lower
  | "casefold" => change Points.caseFold
  | "title" => change Points.title
  | "capitalize" => change Points.capitalize
  | "swapcase" => change Points.swapCase
  | "strip" => plain 0 1; stripWith "strip" p Points.strip args
  | "lstrip" => plain 0 1; stripWith "lstrip" p Points.stripLeft args
  | "rstrip" => plain 0 1; stripWith "rstrip" p Points.stripRight args
  | "split" => splitText ev p false args keywords
  | "rsplit" => splitText ev p true args keywords
  | "splitlines" =>
    let keep ← match argument? args keywords 0 "keepends" with
      | some v => truth ev v
      | none => pure false
    textValues (splitLines keep [] p)
  | "join" => plain 1 1; joinTexts ev p (arg 0)
  | "replace" =>
    requireArguments "replace" 2 3 args keywords
    let q ← textArgument "replace() argument 1 must be str, not " (arg 0)
    let r ← textArgument "replace() argument 2 must be str, not " (arg 1)
    let limit ← match args[2]? with
      | some v => index ev v
      | none => pure (-1)
    return .str (replaceIn q r (if limit < 0 then p.length + 1 else limit.toNat) 0 p)
  | "startswith" => plain 1 3; matchesEnd ev "startswith" p (fun q part => q.isPrefixOf part) args
  | "endswith" => plain 1 3; matchesEnd ev "endswith" p (fun q part => q.isSuffixOf part) args
  | "find" | "rfind" =>
    plain 1 3
    let r ← searchText ev p (if name = "find" then findFrom else findLast) args
    return .int (match r with
      | some i => i
      | none => -1)
  | "index" | "rindex" =>
    plain 1 3
    match ← searchText ev p (if name = "index" then findFrom else findLast) args with
    | some i => return .int i
    | none => valueError "substring not found"
  | "count" =>
    plain 1 3
    let q ← textArgument "must be str, not " (arg 0)
    let (start, stop) ← searchBounds ev p.length (args.drop 1)
    let part := (p.take stop).drop start
    return .int (if q.isEmpty then if start ≤ p.length then part.length + 1 else 0
      else countIn q 0 part)
  | "format" =>
    let named (k : Points) : Run Value := do
      match keywords.find? k.lossy with
      | some v => return v
      | none => failWith .keyError [.str k]
    return .str (← formatFields ev p ⟨args, named⟩)
  | "format_map" =>
    plain 1 1
    return .str (← formatFields ev p ⟨[], fun k => getItem ev (arg 0) (.str k)⟩)
  | "isdecimal" => all fun n => (Points.decimal? n).isSome
  | "isdigit" => all Points.isDigit
  | "isnumeric" => all Points.isNumeric
  | "isalpha" => all Points.isLetter
  | "isalnum" => all fun n => Points.isLetter n || Points.isNumeric n
  | "isspace" => all Points.isSpace
  | "isupper" => test Points.isUpper
  | "islower" => test Points.isLower
  | "istitle" => test Points.isTitled
  | "isprintable" => test fun p => p.all Text.isPrintable
  | "isascii" => test fun p => p.all (· < 128)
  | "isidentifier" =>
    test fun p =>
      match p.lossy with
      | [] => false
      | c :: t => Program.isNameStart c && t.all Program.isNameContinue
  | "center" => plain 1 2; return .str (fillBoth p (← index ev (arg 0)) (← fillArgument args[1]?))
  | "ljust" => plain 1 2; return .str (fillRight p (← index ev (arg 0)) (← fillArgument args[1]?))
  | "rjust" => plain 1 2; return .str (fillLeft p (← index ev (arg 0)) (← fillArgument args[1]?))
  | "zfill" => plain 1 1; return .str (zeroFill p (← index ev (arg 0)))
  | "encode" =>
    match argument? args keywords 0 "encoding" with
    | some v => encodeText p (← textArgument "encode() argument 'encoding' must be str, not " v).lossy
    | none => encodeText p "utf-8"
  | "partition" => plain 1 1; partitionAt p false (arg 0)
  | "rpartition" => plain 1 1; partitionAt p true (arg 0)
  | "removeprefix" =>
    plain 1 1
    let q ← textArgument "removeprefix() argument must be str, not " (arg 0)
    return .str (if q.isPrefixOf p then p.drop q.length else p)
  | "removesuffix" =>
    plain 1 1
    let q ← textArgument "removesuffix() argument must be str, not " (arg 0)
    return .str (if q.isSuffixOf p && !q.isEmpty then p.take (p.length - q.length) else p)
  | "expandtabs" =>
    let size ← match argument? args keywords 0 "tabsize" with
      | some v => index ev v
      | none => pure 8
    return .str (expandTabs size.toNat 0 p)
  | "translate" => plain 1 1; translateText ev p (arg 0)
  | "__len__" => plain 0 0; return .int p.length
  | "__getitem__" => plain 1 1; getItem ev (.str p) (arg 0)
  | "__contains__" => plain 1 1; return .bool (← contains ev (.str p) (arg 0))
  | "__iter__" => plain 0 0; iteratorOf ev (.str p)
  | "__add__" => plain 1 1; binaryWith ev (formatPercent ev) "+" .add (.str p) (arg 0)
  | "__mul__" => plain 1 1; binaryWith ev (formatPercent ev) "*" .mul (.str p) (arg 0)
  | "__mod__" => plain 1 1; return .str (← fillPercent ev false p (arg 0))
  | _ => fail .notImplementedError path

/-- What `maketrans` makes of its arguments. -/
def makeTranslation (ev : Evaluator) (args : List Value) : Run Value := do
  match args with
  | [v] =>
    match ← objectOf v with
    | .dict es =>
      let changed ← es.toList.foldlM (fun es e =>
        match e.1 with
        | .str [n] _ => insertEntry ev es (.int n) e.2
        | k => insertEntry ev es k e.2) .empty
      newDict changed
    | _ => typeError "if you give only one argument to maketrans it must be a dict"
  | a :: b :: more =>
    let p ← textArgument "maketrans() argument 1 must be str, not " a
    let q ← textArgument "maketrans() argument 2 must be str, not " b
    if p.length ≠ q.length then
      valueError "the first two maketrans arguments must have equal length"
    let es ← (List.zip p q).foldlM (fun es (e : Nat × Nat) => insertEntry ev es (.int e.1) (.int e.2)) .empty
    let es ← match more with
      | c :: _ =>
        let r ← textArgument "maketrans() argument 3 must be str, not " c
        r.foldlM (fun es (n : Nat) => insertEntry ev es (.int n) .none) es
      | [] => pure es
    newDict es
  | [] => typeError "maketrans expected at least 1 argument, got 0"

/-- The text that bytes stand for in UTF-8. -/
def decodeBytes (bs : Bytes) : Run Text := do
  match Utf8.fault? bs with
  | none => return Utf8.decode bs
  | some (first, n, fault) =>
    let args : List Value := [.ofString "utf-8", .bytes bs, .int first, .int (first + n : Nat),
      .ofText fault.message]
    let e := exceptionOf .unicodeDecodeError args
    let names : List Text := ["encoding", "object", "start", "end", "reason"]
    raise (← alloc (.exception { e with slots := names.zip args }))

def bytesMethod (ev : Evaluator) (name : String) (bs : List Nat) (args : List Value)
    (keywords : Keywords) : Run Value := do
  let path : Text := "bytes." ++ name
  let plain (least most : Nat) : Run Unit := requireArguments path least most args keywords
  let arg (i : Nat) : Value := args.getD i .none
  match name with
  | "decode" => return .ofText (← decodeBytes bs)
  | "hex" => plain 0 0; return .ofText (bs.flatMap (hexDigits 2))
  | "__len__" => plain 0 0; return .int bs.length
  | "__getitem__" => plain 1 1; getItem ev (.bytes bs) (arg 0)
  | "__contains__" => plain 1 1; return .bool (← contains ev (.bytes bs) (arg 0))
  | "__iter__" => plain 0 0; iteratorOf ev (.bytes bs)
  | "__add__" => plain 1 1; binaryWith ev (formatPercent ev) "+" .add (.bytes bs) (arg 0)
  | "__mul__" => plain 1 1; binaryWith ev (formatPercent ev) "*" .mul (.bytes bs) (arg 0)
  | "__mod__" => plain 1 1; return .bytes (← fillPercent ev true bs (arg 0))
  | _ => fail .notImplementedError path

end ThaiScript.Machine
