import ThaiScript.Encoding.Utf8

/-!
# Declared encodings

A comment in one of the first two lines of a text can declare the encoding of its bytes: `coding`, a
colon or equals sign, and a name. The second line counts only if the first holds nothing but a
comment.
-/

namespace ThaiScript.Declared

def isBlank (c : Char) : Bool := c = ' ' || c = '\t' || c = '\x0c'

def isNameChar (c : Char) : Bool := c.isAlphanum || c = '-' || c = '_' || c = '.'

/-- The name that the first declaration in a comment gives. -/
def nameIn : Text → Option Text
  | [] => none
  | c :: t =>
    match Text.after? "coding" (c :: t) with
    | some (d :: rest) =>
      if d = ':' || d = '=' then
        let name := (rest.dropWhile fun c => c = ' ' || c = '\t').takeWhile isNameChar
        if name.isEmpty then nameIn t else some name
      else nameIn t
    | _ => nameIn t

/-- The name that a line declares. -/
def nameOfLine (line : Text) : Option Text :=
  match line.dropWhile isBlank with
  | '#' :: comment => nameIn comment
  | _ => none

def isComment (line : Text) : Bool :=
  match line.dropWhile isBlank with
  | [] => true
  | c :: _ => c = '#' || c = '\r'

/-- The name that a text declares. -/
def name? (t : Text) : Option Text :=
  match t.lines.take 2 with
  | [] => none
  | [a] => nameOfLine a
  | a :: b :: _ =>
    match nameOfLine a with
    | some n => some n
    | none => if isComment a then nameOfLine b else none

/-- A name in lower case, in which signs that separate its parts are hyphens. -/
def normal (name : Text) : Text :=
  name.map fun c => if c = '_' || c = ' ' then '-' else c.toLower

inductive Encoding
  | utf8
  | ascii
  | latin1
  /-- One character for each byte, in runs from a first to a last byte and the first character. -/
  | table (runs : List (Nat × Nat × Nat))
deriving DecidableEq, Repr

def windows1252 : List (Nat × Nat × Nat) := [
  (0x80, 0x80, 0x20AC), (0x82, 0x82, 0x201A), (0x83, 0x83, 0x192), (0x84, 0x84, 0x201E),
  (0x85, 0x85, 0x2026), (0x86, 0x87, 0x2020), (0x88, 0x88, 0x2C6), (0x89, 0x89, 0x2030),
  (0x8A, 0x8A, 0x160), (0x8B, 0x8B, 0x2039), (0x8C, 0x8C, 0x152), (0x8E, 0x8E, 0x17D),
  (0x91, 0x92, 0x2018), (0x93, 0x94, 0x201C), (0x95, 0x95, 0x2022), (0x96, 0x97, 0x2013),
  (0x98, 0x98, 0x2DC), (0x99, 0x99, 0x2122), (0x9A, 0x9A, 0x161), (0x9B, 0x9B, 0x203A),
  (0x9C, 0x9C, 0x153), (0x9E, 0x9E, 0x17E), (0x9F, 0x9F, 0x178), (0xA0, 0xFF, 0xA0)]

def windows874 : List (Nat × Nat × Nat) := [
  (0x80, 0x80, 0x20AC), (0x85, 0x85, 0x2026), (0x91, 0x92, 0x2018), (0x93, 0x94, 0x201C),
  (0x95, 0x95, 0x2022), (0x96, 0x97, 0x2013), (0xA0, 0xA0, 0xA0), (0xA1, 0xDA, 0xE01),
  (0xDF, 0xFB, 0xE3F)]

def tis620 : List (Nat × Nat × Nat) := [
  (0x80, 0x9F, 0x80), (0xA1, 0xDA, 0xE01), (0xDF, 0xFB, 0xE3F)]

def iso8859Thai : List (Nat × Nat × Nat) := [
  (0x80, 0xA0, 0x80), (0xA1, 0xDA, 0xE01), (0xDF, 0xFB, 0xE3F)]

/-- The names of each encoding. -/
def names : List (Encoding × List String) := [
  (.utf8, ["utf-8", "utf8", "u8", "utf", "utf8-ucs2", "utf8-ucs4", "cp65001", "utf-8-sig"]),
  (.ascii, [
    "ascii", "646", "ansi-x3.4-1968", "ansi-x3-4-1968", "ansi-x3.4-1986", "cp367", "csascii", "ibm367",
    "iso646-us", "iso-646.irv-1991", "iso-ir-6", "us", "us-ascii"]),
  (.latin1, [
    "latin-1", "iso-8859-1", "iso-latin-1", "8859", "cp819", "csisolatin1", "ibm819", "iso8859",
    "iso8859-1", "iso-8859-1-1987", "iso-ir-100", "l1", "latin", "latin1"]),
  (.table windows1252, ["cp1252", "1252", "windows-1252"]),
  (.table windows874, ["cp874"]),
  (.table tis620, ["tis-620", "tis620", "tis-620-0", "tis-620-2529-0", "tis-620-2529-1", "iso-ir-166"]),
  (.table iso8859Thai, ["iso8859-11", "thai", "iso-8859-11", "iso-8859-11-2001"])]

def encoding? (name : Text) : Option Encoding :=
  let n := String.ofList (normal name)
  if "utf-8-".toList.isPrefixOf n.toList then some .utf8
  else (names.find? fun e => n ∈ e.2).map (·.1)

def tableChar? (b : Nat) : List (Nat × Nat × Nat) → Option Char
  | [] => none
  | (lo, hi, first) :: runs =>
    if lo ≤ b && b ≤ hi then some (Char.ofNat (first + (b - lo))) else tableChar? b runs

/-- The character of a byte. -/
def decodeByte? : Encoding → Nat → Option Char
  | .latin1, b => some (Char.ofNat b)
  | .table runs, b => if b < 0x80 then some (Char.ofNat b) else tableChar? b runs
  | _, b => if b < 0x80 then some (Char.ofNat b) else none

inductive Problem
  | unknown (name : Text)
  /-- A byte at a place that stands for no character. -/
  | undecodable (e : Encoding) (byte place : Nat)
  | withMark (name : Text)
deriving DecidableEq, Repr

def Problem.message : Problem → Text
  | unknown name => "unknown encoding: " ++ name
  | undecodable e byte place =>
    let (codec, reason) := match e with
      | .table _ => ("charmap", "character maps to <undefined>")
      | _ => ("ascii", "ordinal not in range(128)")
    "'" ++ codec ++ "' codec can't decode byte 0x" ++ Nat.toDigits 16 byte ++ " in position " ++
      Text.ofNat place ++ ": " ++ reason
  | withMark name => "encoding problem: " ++ name ++ " with BOM"

/-- A text as it reads when its bytes are taken to be in the encoding that it declares, and whether
it declares one. -/
def reread (t : Text) : Except Problem (Text × Bool) :=
  let (t, mark) := match t with
    | '\ufeff' :: t => (t, true)
    | t => (t, false)
  match name? t with
  | none => .ok (t, mark)
  | some name =>
    match encoding? name with
    | none => .error (if mark then .withMark name else .unknown name)
    | some .utf8 => .ok (t, true)
    | some e =>
      if mark then .error (.withMark name)
      else
        let bytes := Utf8.encode t
        match bytes.mapM (decodeByte? e), bytes.findIdx? fun b => (decodeByte? e b).isNone with
        | none, some i => .error (.undecodable e (bytes.getD i 0) i)
        | some t, _ => .ok (t, true)
        | none, none => .ok (t, true)

end ThaiScript.Declared
