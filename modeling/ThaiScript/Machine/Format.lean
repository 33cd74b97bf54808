import ThaiScript.Machine.Arithmetic

/-!
# Formatting

A format says how a value is aligned, signed, grouped and rounded. Texts with replacement fields and
texts with percent signs both fill in values in this way.
-/

namespace ThaiScript.Machine

open Decimal Run

/-! ### Formats of single values -/

structure Format where
  fill : Nat
  /-- One of `<`, `>`, `^` and `=`. -/
  align : Option Char
  /-- One of `+`, `-` and a blank. -/
  sign : Option Char
  /-- Whether a zero is written without the sign that it may have. -/
  plainZero : Bool
  alternate : Bool
  width : Nat
  grouping : Option Char
  precision : Option Nat
  type : Option Char
deriving DecidableEq, Repr

def isAlign (n : Nat) : Bool := n = 60 || n = 62 || n = 94 || n = 61

/-- The number that the digits at the head of a text make, and the rest. -/
def numberBy (digit? : Nat → Option Nat) (p : Points) : Option Nat × Points :=
  let ds := p.takeWhile fun n => (digit? n).isSome
  (if ds.isEmpty then none else some (ds.foldl (fun v n => v * 10 + (digit? n).getD 0) 0),
    p.drop ds.length)

/-- The number at the head of a text, in the digits of any script. -/
def leadingNumber (p : Points) : Option Nat × Points := numberBy Points.decimal? p

/-- The number at the head of a text, in the digits `0` to `9`. -/
def leadingAscii (p : Points) : Option Nat × Points :=
  numberBy (fun n => if 48 ≤ n && n ≤ 57 then some (n - 48) else none) p

/-- The greatest number that a format may hold. -/
def greatestNumber : Nat := 2 ^ 63 - 1

/-- The number at the head of a text, unless it is too great. -/
def takeNumber (p : Points) : Run (Option Nat × Points) := do
  match leadingNumber p with
  | (some n, rest) =>
    if greatestNumber < n then valueError "Too many decimal digits in format string"
    return (some n, rest)
  | taken => return taken

/-- Takes a code point off the head of a text, if it satisfies a test. -/
def takeIf (test : Nat → Bool) (p : Points) : Option Nat × Points :=
  match p with
  | n :: rest => if test n then (some n, rest) else (none, p)
  | [] => (none, [])

/-- Raises an exception unless digits may be grouped by a mark in a notation. -/
def requireGrouping (mark : Nat) (type : Option Nat) : Run Unit := do
  let c := type.getD 0
  let byThree := c = 0 || (Text.points "defgEG%F").contains c
  let byFour := mark = 95 && (Text.points "boxX").contains c
  if byThree || byFour then return
  let shown : Text :=
    if 32 < c && c < 128 then [Char.ofNat c] else "\\x" ++ Nat.toDigits 16 c
  valueError ("Cannot specify '" ++ [Char.ofNat mark] ++ "' with '" ++ shown ++ "'.")

/-- Reads a format for a value of the class `kind`. A zero before the width fills numbers, which stand
to the right by themselves, behind their signs. -/
def parseFormat (kind : Text) (isNumber : Bool) (p : Points) : Run Format := do
  let whole := p
  let (fill, align, p) : Option Nat × Option Nat × Points := match p with
    | f :: a :: rest =>
      if isAlign a then (some f, some a, rest)
      else if isAlign f then (none, some f, a :: rest)
      else (none, none, p)
    | [a] => if isAlign a then (none, some a, []) else (none, none, p)
    | [] => (none, none, [])
  let (sign, p) := takeIf (fun n => n = 43 || n = 45 || n = 32) p
  let (plainZero, p) := takeIf (· = 122) p
  let (alternate, p) := takeIf (· = 35) p
  let (zero, p) := if fill.isNone then takeIf (· = 48) p else (none, p)
  let align := if zero.isSome && align.isNone && isNumber then some 61 else align
  let (width, p) ← takeNumber p
  let (comma, p) := takeIf (· = 44) p
  let (underscore, p) := takeIf (· = 95) p
  let both := comma.isSome && underscore.isSome || underscore.isSome && p.head? = some 44
  if both then valueError "Cannot specify both ',' and '_'."
  let grouping := comma <|> underscore
  let (precision, p) ← match p with
    | 46 :: rest =>
      match ← takeNumber rest with
      | (some n, rest) => pure (some n, rest)
      | (none, _) => valueError "Format specifier missing precision"
    | p => pure (none, p)
  match p with
  | _ :: _ :: _ =>
    valueError ("Invalid format specifier '" ++ whole.lossy ++ "' for object of type '" ++ kind ++ "'")
  | p =>
    match grouping with
    | some mark => requireGrouping mark (p.head? <|> if isNumber then none else some 115)
    | none => pure ()
    return {
      fill := fill.getD (if zero.isSome then 48 else 32)
      align := align.map Char.ofNat
      sign := sign.map Char.ofNat
      plainZero := plainZero.isSome
      alternate := alternate.isSome
      width := width.getD 0
      grouping := grouping.map Char.ofNat
      precision := precision
      type := p.head?.map Char.ofNat }

/-- Fills a text up to the width; with `=` the filling stands behind the sign. -/
def pad (f : Format) (standard : Char) (sign body : Points) : Points :=
  let missing := f.width - (sign.length + body.length)
  let filling (n : Nat) : Points := List.replicate n f.fill
  match f.align.getD standard with
  | '<' => sign ++ body ++ filling missing
  | '^' => filling (missing / 2) ++ sign ++ body ++ filling (missing - missing / 2)
  | '=' => sign ++ filling missing ++ body
  | _ => filling missing ++ sign ++ body

/-- Groups digits from the right. -/
def groupDigits (size : Nat) (mark : Char) (digits : Text) : Text :=
  let rec go : (count : Nat) → Text → Text
    | _, [] => []
    | count, d :: ds => if count = size then mark :: d :: go 1 ds else d :: go (count + 1) ds
  (go 0 digits.reverse).reverse

def signText (f : Format) (negative : Bool) : Text :=
  if negative then ['-'] else if f.sign = some '+' then ['+'] else if f.sign = some ' ' then [' '] else []

/-- Groups the whole part of a number, filled up with zeros where the filling stands behind the
sign. -/
def groupWhole (f : Format) (size : Nat) (sign rest whole : Text) : Text :=
  match f.grouping with
  | none => whole
  | some mark =>
    let room := f.width - (sign.length + rest.length)
    let rec widen : (steps : Nat) → Text → Text
      | 0, t => groupDigits size mark t
      | steps + 1, t =>
        let g := groupDigits size mark t
        if g.length < room then widen steps ('0' :: t) else g
    if f.align = some '=' && f.fill = 48 then widen room whole else groupDigits size mark whole

def unknownCode {α : Type} (kind : Text) (f : Format) : Run α :=
  let c := f.type.getD ' '
  if 32 < c.toNat && c.toNat < 128 then
    valueError ("Unknown format code '" ++ [c] ++ "' for object of type '" ++ kind ++ "'")
  else
    valueError ("Unknown format code '\\x" ++ Nat.toDigits 16 c.toNat ++ "' for object of type '" ++
      kind ++ "'")

def formatText (kind : Text) (f : Format) (p : Points) : Run Points := do
  match f.type with
  | none | some 's' =>
    if f.sign = some ' ' then valueError "Space not allowed in string format specifier"
    if f.sign.isSome then valueError "Sign not allowed in string format specifier"
    if f.plainZero then
      valueError "Negative zero coercion (z) not allowed in string format specifier"
    if f.alternate then valueError "Alternate form (#) not allowed in string format specifier"
    if f.align = some '=' then valueError "'=' alignment not allowed in string format specifier"
    return pad f '<' [] (match f.precision with
      | some n => p.take n
      | none => p)
  | _ => unknownCode kind f

/-- The notation of a finite magnitude. -/
def magnitudeIn (f : Format) (type : Option Char) (b : Binary) : Text :=
  let places := f.precision.getD 6
  match type with
  | some 'f' | some 'F' => fixedText b places
  | some '%' => fixedText b places
  | some 'e' => scientificText 'e' b places
  | some 'E' => scientificText 'E' b places
  | some 'g' | some 'n' => generalText 'e' b places f.alternate
  | some 'G' => generalText 'E' b places f.alternate
  | _ =>
    match f.precision with
    | none => magnitudeText b
    | some n =>
      let t := generalText 'e' b n f.alternate
      if 'e' ∈ t || '.' ∈ t then t
      else if n ≤ t.length then
        let d := significant b.num b.den (max n 1)
        withFraction (d.digits.take 1) (dropZeros (d.digits.drop 1)) ++ d.exponentText 'e'
      else t ++ ['.', '0']

/-- Whether a magnitude is written as zero. -/
def isZeroText (t : Text) : Bool :=
  (t.takeWhile fun c => c ≠ 'e' && c ≠ 'E').all fun c => c = '0' || c = '.'

def floatTypes : List Char := ['e', 'E', 'f', 'F', 'g', 'G', 'n', '%']

def formatFloat (kind : Text) (f : Format) (x : Float) : Run Points := do
  match f.type with
  | some c => if c ∉ floatTypes then unknownCode kind f
  | none => pure ()
  if 2 ^ 31 ≤ f.precision.getD 0 then valueError "precision too big"
  let percent : Text := if f.type = some '%' then ['%'] else []
  let x := if f.type = some '%' then x * 100 else x
  match Binary.ofFloat? x with
  | some b =>
    let t := magnitudeIn f f.type b
    let whole := t.takeWhile Char.isDigit
    let rest := t.dropWhile Char.isDigit ++ percent
    let sign := signText f (b.negative && !(f.plainZero && isZeroText t))
    return pad f '>' sign.points (groupWhole f 3 sign rest whole ++ rest).points
  | none =>
    let upper : Bool := f.type = some 'E' || f.type = some 'F' || f.type = some 'G'
    let name : Text := if x.isNaN then if upper then "NAN" else "nan"
      else if upper then "INF" else "inf"
    return pad f '>' (signText f (x < 0)).points (name ++ percent).points

/-- A part of a complex number, of which `magnitude` is the text of a finite one. -/
def partOf (f : Format) (magnitude : Binary → Text) (x : Float) : Text :=
  match Binary.ofFloat? x with
  | some b =>
    let t := magnitude b
    let sign := signText f (b.negative && !(f.plainZero && isZeroText t))
    let whole := t.takeWhile Char.isDigit
    sign ++ groupWhole f 3 sign [] whole ++ t.drop whole.length
  | none => signText f (x < 0) ++ if x.isNaN then "nan" else "inf"

/-- Without a notation a complex number stands in parentheses, unless it has no real part. -/
def formatComplex (kind : Text) (f : Format) (z : Complex) : Run Points := do
  match f.type with
  | some c => if c ∉ floatTypes || c = '%' then unknownCode kind f
  | none => pure ()
  if f.fill = 48 then valueError "Zero padding is not allowed in complex format specifier"
  if f.align = some '=' then
    valueError "'=' alignment flag is not allowed in complex format specifier"
  let alone := f.type.isNone && z.re == 0 && !isSignNegative z.re
  let magnitude (b : Binary) : Text :=
    match f.type, f.precision with
    | none, none =>
      let t := magnitudeText b
      if t.drop (t.length - 2) = ".0".toList then t.take (t.length - 2) else t
    | none, some _ => magnitudeIn f (some 'g') b
    | type, _ => magnitudeIn f type b
  let f := { f with width := 0 }
  let re : Text := if alone then [] else partOf f magnitude z.re
  let im := partOf (if alone then f else { f with sign := some '+' }) magnitude z.im
  let body := re ++ im ++ ['j']
  let body := if f.type.isNone && !alone then '(' :: body ++ [')'] else body
  return Text.points body

def formatInt (kind : Text) (f : Format) (n : Int) : Run Points := do
  let sign := signText f (n < 0)
  let inBase (base size : Nat) (mark : Text) (upper : Bool) : Run Points := do
    let ds := digitsIn base n.natAbs
    let ds := if upper then ds.map Char.toUpper else ds
    let mark := if f.alternate then mark else []
    return pad f '>' (sign ++ mark).points (groupWhole f size (sign ++ mark) [] ds).points
  match f.type with
  | some 'e' | some 'E' | some 'f' | some 'F' | some 'g' | some 'G' | some '%' =>
    formatFloat kind f (← requireFloat n)
  | _ =>
    if f.precision.isSome then valueError "Precision not allowed in integer format specifier"
    if f.plainZero then
      valueError "Negative zero coercion (z) not allowed in integer format specifier"
    match f.type with
    | none | some 'd' | some 'n' =>
      if isTooLong n then let _ ← intText n
      inBase 10 3 [] false
    | some 'b' => inBase 2 4 "0b" false
    | some 'o' => inBase 8 4 "0o" false
    | some 'x' => inBase 16 4 "0x" false
    | some 'X' => inBase 16 4 "0X" true
    | some 'c' =>
      if f.sign.isSome then valueError "Sign not allowed with integer format specifier 'c'"
      if f.alternate then
        valueError "Alternate form (#) not allowed with integer format specifier 'c'"
      if n < -(2 ^ 63) ∨ 2 ^ 63 ≤ n then
        fail .overflowError "Python int too large to convert to C long"
      if n < 0 ∨ 0x10FFFF < n then fail .overflowError "%c arg not in range(0x110000)"
      return pad f '<' [] [n.toNat]
    | _ => unknownCode kind f

/-- Formats a value as a text of a format asks. -/
def formatValue (ev : Evaluator) (v : Value) (spec : Points) : Run Points := do
  match ← callSpecial? ev v "__format__" [.str spec] with
  | some w => asText "__format__" w
  | none =>
    if spec.isEmpty then textOf ev v
    else
      let kind ← typeName v
      match ← content v with
      | .str p _ => formatText kind (← parseFormat kind false spec) p
      | .int n _ => formatInt kind (← parseFormat kind true spec) n
      | .bool b => formatInt kind (← parseFormat kind true spec) (if b then 1 else 0)
      | .float x _ => formatFloat kind (← parseFormat kind true spec) x
      | .complex z _ =>
        let f ← parseFormat kind true spec
        return pad f '>' [] (← formatComplex kind f z)
      | _ => typeError ("unsupported format string passed to " ++ (← typeName v) ++ ".__format__")

/-- The text of a value behind a conversion mark. -/
def convert (ev : Evaluator) (mark : Option Char) (v : Value) : Run Value := do
  match mark with
  | some 's' => return .str (← textOf ev v)
  | some 'r' => return .str (← ev.repr v)
  | some 'a' => return .str ((← ev.repr v).flatMap fun n => (escapeBeyondAscii n).points)
  | _ => return v
where
  escapeBeyondAscii (n : Nat) : Text := if n < 128 then [Char.ofNat n] else escapePoint 0 true n

/-! ### Percent signs -/

/-- The flags, width and precision of a conversion. -/
structure Conversion where
  left : Bool
  plus : Bool
  blank : Bool
  zero : Bool
  alternate : Bool
  width : Nat
  precision : Option Nat
deriving DecidableEq, Repr

/-- The values that are left to fill in: a list, or one value for all names. -/
structure Supply where
  values : List Value
  mapping : Option Value
  /-- Whether a value was taken by its name. -/
  named : Bool
  /-- Whether the values are filled into bytes, and not into a text. -/
  intoBytes : Bool

def Conversion.toFormat (c : Conversion) : Format where
  fill := if c.zero && !c.left then 48 else 32
  align := some (if c.left then '<' else if c.zero then '=' else '>')
  sign := if c.plus then some '+' else if c.blank then some ' ' else none
  plainZero := false
  alternate := c.alternate
  width := c.width
  grouping := none
  precision := c.precision
  type := none

def takeValue (s : Supply) : Run (Value × Supply) := do
  match s.values with
  | v :: vs => return (v, { s with values := vs })
  | [] => typeError "not enough arguments for format string"

/-- The integer that a conversion writes: any number for `d`, else only a whole one. -/
def numberFor (ev : Evaluator) (c : Char) (v : Value) : Run Int := do
  let isDecimal : Bool := c = 'd' || c = 'i' || c = 'u'
  match number? (← content v) with
  | some (.int n) => return n
  | some (.float x) => if isDecimal then floatToInt x else wrong isDecimal
  | _ =>
    let made ← if isDecimal then callSpecial? ev v "__int__" [] else pure none
    match made with
    | some (.int n _) => return n
    | _ =>
      match ← index? ev v with
      | some n => return n
      | none => wrong isDecimal
where
  wrong (isDecimal : Bool) : Run Int := do
    let wanted : Text := if isDecimal then "a real number" else "an integer"
    typeError ("%" ++ [c] ++ " format: " ++ wanted ++ " is required, not " ++ (← typeName v))

/-- An integer with at least as many digits as the precision asks for. -/
def withDigits (c : Conversion) (base : Nat) (mark : Text) (upper : Bool) (n : Int) : Points :=
  let ds := digitsIn base n.natAbs
  let ds := if upper then ds.map Char.toUpper else ds
  let ds := List.replicate (c.precision.getD 0 - ds.length) '0' ++ ds
  let f := c.toFormat
  pad f '>' (signText f (n < 0) ++ if c.alternate then mark else []).points (Text.points ds)

def floatFor (ev : Evaluator) (isBytes : Bool) (v : Value) : Run Float := do
  match number? (← content v) with
  | some (.int n) => requireFloat n
  | some (.float x) => return x
  | _ =>
    match ← callSpecial? ev v "__float__" [] with
    | some (.float x _) => return x
    | _ =>
      match ← index? ev v with
      | some n => requireFloat n
      | none =>
        if isBytes then typeError ("float argument required, not " ++ (← typeName v))
        else typeError ("must be real number, not " ++ (← typeName v))

/-- The single character or byte that a value stands for. -/
def characterFor (ev : Evaluator) (isBytes : Bool) (v : Value) : Run Nat := do
  let limit := if isBytes then 256 else 0x110000
  let wrong : Run Nat := typeError (if isBytes then
    "%c requires an integer in range(256) or a single byte" else "%c requires int or char")
  match ← content v, isBytes with
  | .str [n] _, false | .bytes [n] _, true => return n
  | .str _ _, _ | .bytes _ _, _ => wrong
  | w, _ =>
    match ← index? ev w with
    | some n =>
      if n < 0 ∨ limit ≤ n then
        fail .overflowError (if isBytes then "%c arg not in range(256)"
          else "%c arg not in range(0x110000)")
      return n.toNat
    | none => wrong

/-- The bytes that a value stands for. -/
def bytesFor (ev : Evaluator) (v : Value) : Run Points := do
  match ← content v with
  | .bytes bs _ => return bs
  | _ =>
    match ← callSpecial? ev v "__bytes__" [] with
    | some (.bytes bs _) => return bs
    | some w => typeError ("__bytes__ returned non-bytes (type " ++ (← typeName w) ++ ")")
    | none =>
      typeError ("%b requires a bytes-like object, or an object that implements __bytes__, not '" ++
        (← typeName v) ++ "'")

def convertPercent (ev : Evaluator) (c : Conversion) (mark : Char) (position : Nat) (s : Supply) :
    Run (Points × Supply) := do
  let f := c.toFormat
  let textual (p : Points) : Points :=
    pad { f with fill := 32, align := some (if c.left then '<' else '>') } '>' []
      (match c.precision with
        | some n => p.take n
        | none => p)
  let asciiRepr (v : Value) : Run Points := do
    match ← convert ev (some 'a') v with
    | .str p _ => return p
    | _ => return []
  if mark = '%' then return ([37], s)
  let (v, s) ← takeValue s
  match mark, s.intoBytes with
  | 's', false => return (textual (← textOf ev v), s)
  | 'r', false => return (textual (← ev.repr v), s)
  | 's', true | 'b', true => return (textual (← bytesFor ev v), s)
  | 'a', _ | 'r', true => return (textual (← asciiRepr v), s)
  | 'd', _ | 'i', _ | 'u', _ =>
    let n ← numberFor ev mark v
    if isTooLong n then let _ ← intText n
    return (withDigits c 10 [] false n, s)
  | 'x', _ => return (withDigits c 16 "0x" false (← numberFor ev mark v), s)
  | 'X', _ => return (withDigits c 16 "0X" true (← numberFor ev mark v), s)
  | 'o', _ => return (withDigits c 8 "0o" false (← numberFor ev mark v), s)
  | 'e', _ | 'E', _ | 'f', _ | 'F', _ | 'g', _ | 'G', _ =>
    return (← formatFloat "float" { f with type := some mark } (← floatFor ev s.intoBytes v), s)
  | 'c', _ =>
    let n ← characterFor ev s.intoBytes v
    return (textual [n], s)
  | _, _ =>
    let shown : Char := if 31 ≤ mark.toNat && mark.toNat ≤ 126 then mark else '?'
    valueError ("unsupported format character '" ++ [shown] ++ "' (0x" ++
      Nat.toDigits 16 mark.toNat ++ ") at index " ++ Text.ofNat position)

def takeFlags : Conversion → Points → Conversion × Points
  | c, [] => (c, [])
  | c, n :: p =>
    if n = 45 then takeFlags { c with left := true } p
    else if n = 43 then takeFlags { c with plus := true } p
    else if n = 32 then takeFlags { c with blank := true } p
    else if n = 48 then takeFlags { c with zero := true } p
    else if n = 35 then takeFlags { c with alternate := true } p
    else (c, n :: p)

/-- A number, or a star for one that is taken from the values. -/
def takeWidth (greatest : Nat) (tooBig : Text) (p : Points) (s : Supply) :
    Run (Option Int × Points × Supply) := do
  match p with
  | 42 :: rest =>
    let (v, s) ← takeValue s
    match number? (← content v) with
    | some (.int n) => return (some n, rest, s)
    | _ => typeError "* wants int"
  | p =>
    let (n, rest) := leadingAscii p
    if greatest < n.getD 0 then valueError tooBig
    return (n.map Int.ofNat, rest, s)

/-- The name in front of the bracket that closes it, and what stands behind that. -/
def bracketedName : (open_ : Nat) → Points → Option (Points × Points)
  | _, [] => none
  | k, n :: p =>
    if n = 41 && k = 0 then some ([], p)
    else
      let k := if n = 41 then k - 1 else if n = 40 then k + 1 else k
      (bracketedName k p).map fun (a, b) => (n :: a, b)

/-- Fills values in at percent signs. The bound is the length of the text. -/
def percentLoop (ev : Evaluator) (size : Nat) : (bound : Nat) → Points → Supply →
    Run (Points × Supply)
  | 0, _, s => return ([], s)
  | _ + 1, [], s => return ([], s)
  | bound + 1, n :: p, s => do
    if n ≠ 37 then
      let (rest, s) ← percentLoop ev size bound p s
      return (n :: rest, s)
    else
      let (p, s) ← match p with
        | 40 :: inner =>
          match s.mapping with
          | none => typeError "format requires a mapping"
          | some d =>
            match bracketedName 0 inner with
            | none => valueError "incomplete format key"
            | some (name, rest) =>
              let v ← getItem ev d (if s.intoBytes then .bytes name else .str name)
              pure (rest, { s with values := [v], named := true })
        | p => pure (p, s)
      let (c, p) := takeFlags ⟨false, false, false, false, false, 0, none⟩ p
      let (width, p, s) ← takeWidth greatestNumber "width too big" p s
      let c := match width with
        | some w => { c with width := w.natAbs, left := c.left || w < 0 }
        | none => c
      let (c, p, s) ← match p with
        | 46 :: rest =>
          let (n, rest, s) ← takeWidth (2 ^ 31 - 1) "precision too big" rest s
          pure ({ c with precision := some (n.getD 0).toNat }, rest, s)
        | p => pure (c, p, s)
      let (_, p) := takeIf (fun n => n = 104 || n = 108 || n = 76) p
      match p with
      | [] => valueError "incomplete format"
      | mark :: p =>
        let (shown, s) ← convertPercent ev c (Char.ofNat mark) (size - p.length - 1) s
        let (rest, s) ← percentLoop ev size bound p s
        return (shown ++ rest, s)

/-- The value that is asked for names, if a value can be asked. -/
def namedSupply? (v : Value) : Run (Option Value) := do
  match ← content v with
  | .str _ _ | .tuple _ _ => return none
  | .range .. => return some v
  | inside =>
    match ← objectOf inside with
    | .dict _ | .list _ => return some v
    | _ => return if (← special? v "__getitem__").isSome then some v else none

/-- Fills a value, or the values of a tuple, into a text or into bytes. -/
def fillPercent (ev : Evaluator) (intoBytes : Bool) (p : Points) (v : Value) : Run Points := do
  let inside ← content v
  let mapping ← match inside with
    | .bytes _ _ => pure (if intoBytes then none else some v)
    | _ => namedSupply? v
  let values := match inside with
    | .tuple vs _ => vs
    | _ => [v]
  let (shown, s) ← percentLoop ev p.length (p.length + 1) p ⟨values, mapping, false, intoBytes⟩
  if !s.values.isEmpty && !s.named && mapping.isNone then
    typeError ("not all arguments converted during " ++
      (if intoBytes then "bytes" else "string") ++ " formatting")
  return shown

/-- The operator `%` of a text or of bytes. -/
def formatPercent (ev : Evaluator) (a v : Value) : Run (Option Value) := do
  match a with
  | .str p _ => return some (.str (← fillPercent ev false p v))
  | .bytes bs _ => return some (.bytes (← fillPercent ev true bs v))
  | _ => return none

/-! ### Replacement fields -/

/-- How fields name their values: not told yet, in turn, or by numbers. -/
inductive Numbering
  | unknown
  | automatic (next : Nat)
  | manual
deriving DecidableEq, Repr

/-- The name of a field, and what stands behind it from the mark on that ends it. Brackets hide such
marks. -/
def fieldName : (inBrackets : Bool) → Points → Run (Points × Points)
  | _, [] => return ([], [])
  | true, n :: p => do
    let (a, b) ← fieldName (n ≠ 93) p
    return (n :: a, b)
  | false, n :: p => do
    if n = 123 then valueError "unexpected '\x7b' in field name"
    if n = 125 || n = 33 || n = 58 then return ([], n :: p)
    let (a, b) ← fieldName (n = 91) p
    return (n :: a, b)

/-- A format up to the brace that closes its field. -/
def fieldFormat : (open_ : Nat) → Points → Run (Points × Points)
  | _, [] => valueError "unmatched '\x7b' in format spec"
  | k, n :: p => do
    if n = 125 && k = 0 then return ([], p)
    let k := if n = 125 then k - 1 else if n = 123 then k + 1 else k
    let (a, b) ← fieldFormat k p
    return (n :: a, b)

structure Field where
  path : Points
  conversion : Option Nat
  format : Points

/-- The field at the head of a text, behind the brace that opens it, and the rest. -/
def takeField (p : Points) : Run (Field × Points) := do
  let (path, behind) ← fieldName false p
  match behind with
  | [] => valueError "expected '\x7d' before end of string"
  | 125 :: rest => return (⟨path, none, []⟩, rest)
  | 58 :: rest =>
    let (format, rest) ← fieldFormat 0 rest
    return (⟨path, none, format⟩, rest)
  | _ :: [] => valueError "end of string while looking for conversion specifier"
  | _ :: c :: [] =>
    let (format, rest) ← fieldFormat 0 []
    return (⟨path, some c, format⟩, rest)
  | _ :: c :: 125 :: rest => return (⟨path, some c, []⟩, rest)
  | _ :: c :: 58 :: rest =>
    let (format, rest) ← fieldFormat 0 rest
    return (⟨path, some c, format⟩, rest)
  | _ => valueError "expected ':' after conversion specifier"

/-- Follows the attributes and items that a field names. The bound is the length of the path. -/
def followPath (ev : Evaluator) : (bound : Nat) → Value → Points → Run Value
  | 0, v, _ => return v
  | _ + 1, v, [] => return v
  | bound + 1, v, n :: p => do
    if n = 46 then
      let name := p.takeWhile fun n => n ≠ 46 && n ≠ 91
      if name.isEmpty then valueError "Empty attribute in format string"
      followPath ev bound (← getAttribute ev v (Points.lossy name)) (p.drop name.length)
    else if n = 91 then
      let key := p.takeWhile (· ≠ 93)
      if key.length = p.length then valueError "Missing ']' in format string"
      if key.isEmpty then valueError "Empty attribute in format string"
      let i : Value := match leadingNumber key with
        | (some k, []) => .int k
        | _ => .str key
      followPath ev bound (← getItem ev v i) (p.drop (key.length + 1))
    else valueError "Only '.' or '[' may follow ']' in format field specifier"

/-- The values that fields name. -/
structure FieldValues where
  args : List Value
  /-- Looks a name up. -/
  named : Points → Run Value

def fieldValue (ev : Evaluator) (vs : FieldValues) (numbering : Numbering) (path : Points) :
    Run (Value × Numbering) := do
  let first := path.takeWhile fun n => n ≠ 46 && n ≠ 91
  let rest := path.drop first.length
  let numbered (k : Nat) : Run Value := do
    match vs.args[k]? with
    | some v => return v
    | none =>
      fail .indexError ("Replacement index " ++ Text.ofNat k ++
        " out of range for positional args tuple")
  let follow (v : Value) : Run Value := followPath ev (rest.length + 1) v rest
  match first with
  | [] =>
    match numbering with
    | .manual =>
      valueError "cannot switch from manual field specification to automatic field numbering"
    | .automatic k => return (← follow (← numbered k), .automatic (k + 1))
    | .unknown => return (← follow (← numbered 0), .automatic 1)
  | first =>
    match leadingNumber first with
    | (some k, []) =>
      match numbering with
      | .automatic _ =>
        valueError "cannot switch from automatic field numbering to manual field specification"
      | _ => return (← follow (← numbered k), .manual)
    | _ => return (← follow (← vs.named first), numbering)

/-- Fills values in at replacement fields. Formats hold fields themselves to a depth of two; the
bound is the length of the text. -/
def fillFields (ev : Evaluator) (vs : FieldValues) : (bound depth : Nat) → Numbering → Points →
    Run (Points × Numbering)
  | 0, _, numbering, _ => return ([], numbering)
  | _, _, numbering, [] => return ([], numbering)
  | bound + 1, depth, numbering, n :: p => do
    if n = 123 then
      match p with
      | [] => valueError "Single '\x7b' encountered in format string"
      | 123 :: q =>
        let (rest, numbering) ← fillFields ev vs bound depth numbering q
        return (n :: rest, numbering)
      | p =>
        let (field, rest) ← takeField p
        let (v, numbering) ← fieldValue ev vs numbering field.path
        match field.conversion with
        | some c =>
          if c ≠ 115 && c ≠ 114 && c ≠ 97 then
            let shown : Text := if 32 < c && c < 127 then [Char.ofNat c] else "\\x" ++ Nat.toDigits 16 c
            valueError ("Unknown conversion specifier " ++ shown)
        | none => pure ()
        let v ← convert ev (field.conversion.map Char.ofNat) v
        let (spec, numbering) ←
          if 123 ∈ field.format then
            match depth with
            | 0 | 1 => valueError "Max string recursion exceeded"
            | depth + 1 => fillFields ev vs bound depth numbering field.format
          else pure (field.format, numbering)
        let shown ← formatValue ev v spec
        let (more, numbering) ← fillFields ev vs bound depth numbering rest
        return (shown ++ more, numbering)
    else if n = 125 then
      match p with
      | 125 :: q =>
        let (rest, numbering) ← fillFields ev vs bound depth numbering q
        return (n :: rest, numbering)
      | _ => valueError "Single '\x7d' encountered in format string"
    else
      let (rest, numbering) ← fillFields ev vs bound depth numbering p
      return (n :: rest, numbering)

def formatFields (ev : Evaluator) (p : Points) (vs : FieldValues) : Run Points := do
  return (← fillFields ev vs (p.length + 1) 2 .unknown p).1

end ThaiScript.Machine
