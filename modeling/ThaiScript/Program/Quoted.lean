import ThaiScript.Program.Fault
import ThaiScript.Text.Named

/-!
# String tokens

A string token is letters, quotes and a body. The letters decide whether escapes count, whether the
string is of bytes, and whether it is formatted. A formatted string is cut into texts and
replacements; the expression of a replacement ends at the first `!`, `:`, `=` or closing brace outside
its own brackets and strings.
-/

namespace ThaiScript.Program.Quoted

structure Parts where
  raw : Bool
  bytes : Bool
  formatted : Bool
  body : Text
deriving Repr

/-- The parts of a string token. -/
def split (token : Text) : Parts :=
  let letters := token.takeWhile fun c => c ≠ '"' && c ≠ '\''
  let quoted := token.dropWhile fun c => c ≠ '"' && c ≠ '\''
  let has (c d : Char) : Bool := letters.any fun l => l = c || l = d
  let size := match quoted with
    | a :: b :: c :: _ => if a = b && b = c && 6 ≤ quoted.length then 3 else 1
    | _ => 1
  ⟨has 'r' 'R', has 'b' 'B', has 'f' 'F', (quoted.drop size).take (quoted.length - 2 * size)⟩

def hexValue? (c : Char) : Option Nat :=
  if c.isDigit then some (c.toNat - 48)
  else if 'a' ≤ c && c ≤ 'f' then some (c.toNat - 87)
  else if 'A' ≤ c && c ≤ 'F' then some (c.toNat - 55)
  else none

/-- Up to `n` hexadecimal digits: how many there are, their value, and the rest. -/
def hexDigits : (n : Nat) → (count value : Nat) → Text → Nat × Nat × Text
  | 0, count, value, t => (count, value, t)
  | _ + 1, count, value, [] => (count, value, [])
  | n + 1, count, value, c :: t =>
    match hexValue? c with
    | some d => hexDigits n (count + 1) (value * 16 + d) t
    | none => (count, value, c :: t)

def isOctal (c : Char) : Bool := '0' ≤ c && c ≤ '7'

def octalDigits : (n : Nat) → (count value : Nat) → Text → Nat × Nat × Text
  | 0, count, value, t => (count, value, t)
  | _ + 1, count, value, [] => (count, value, [])
  | n + 1, count, value, c :: t =>
    if isOctal c then octalDigits n (count + 1) (value * 8 + (c.toNat - 48)) t
    else (count, value, c :: t)

/-- What a single letter behind a backslash stands for. -/
def simpleEscape? : Char → Option Nat
  | '\\' => some 92
  | '\'' => some 39
  | '"' => some 34
  | 'a' => some 7
  | 'b' => some 8
  | 'f' => some 12
  | 'n' => some 10
  | 'r' => some 13
  | 't' => some 9
  | 'v' => some 11
  | _ => none

/-- An escape of `n` hexadecimal digits at the place `pos`. -/
def hexEscape (bytes : Bool) (n : Nat) (form : String) (pos : Nat) (t : Text) :
    Except Cause (Nat × Nat × Text) :=
  let (count, value, rest) := hexDigits n 0 0 t
  if count < n then
    if bytes then .error (.badByteEscape pos)
    else .error (.badEscape pos (pos + 1 + count) ("truncated \\" ++ form ++ " escape"))
  else if 0x10FFFF < value then .error (.badEscape pos (pos + 1 + count) "illegal Unicode character")
  else .ok (count, value, rest)

/-- The number of places that a text takes: a character outside ASCII counts as ten. -/
def places (t : Text) : Nat := (t.map fun c => if c.toNat < 0x80 then 1 else 10).sum

/-- An escape that names a character: `t` stands behind the letter. The code point, the number of
places and the rest. -/
def namedEscape (pos : Nat) (t : Text) : Except Cause (Nat × Nat × Text) :=
  match t with
  | '\x7b' :: t =>
    let name := t.takeWhile (· ≠ '\x7d')
    let size := places name
    if name.length = t.length then
      .error (.badEscape pos (pos + 2 + size) "malformed \\N character escape")
    else if name.isEmpty then .error (.badEscape pos (pos + 2) "malformed \\N character escape")
    else match Points.named? name with
      | some n => .ok (n, size + 4, t.drop (name.length + 1))
      | none => .error (.badEscape pos (pos + 3 + size) "unknown Unicode character name")
  | _ => .error (.badEscape pos (pos + 1) "malformed \\N character escape")

/-- The code points that the body of a string stands for. A backslash before a character outside
ASCII counts as six places. -/
def unescape (bytes : Bool) : (fuel pos : Nat) → Text → Except Cause Points
  | 0, _, _ => .ok []
  | _ + 1, _, [] => .ok []
  | fuel + 1, pos, '\\' :: c :: t =>
    match simpleEscape? c with
    | some n => (unescape bytes fuel (pos + 2) t).map (n :: ·)
    | none =>
      if c = '\n' then unescape bytes fuel (pos + 2) t
      else if isOctal c then
        let (count, value, rest) := octalDigits 3 0 0 (c :: t)
        let value := if bytes then value % 256 else value
        (unescape bytes fuel (pos + 1 + count) rest).map (value :: ·)
      else if c = 'x' then do
        let (count, value, rest) ← hexEscape bytes 2 "xXX" pos t
        (unescape bytes fuel (pos + 2 + count) rest).map (value :: ·)
      else if c = 'u' && !bytes then do
        let (count, value, rest) ← hexEscape bytes 4 "uXXXX" pos t
        (unescape bytes fuel (pos + 2 + count) rest).map (value :: ·)
      else if c = 'U' && !bytes then do
        let (count, value, rest) ← hexEscape bytes 8 "UXXXXXXXX" pos t
        (unescape bytes fuel (pos + 2 + count) rest).map (value :: ·)
      else if c = 'N' && !bytes then do
        let (n, size, rest) ← namedEscape pos t
        (unescape bytes fuel (pos + size) rest).map (n :: ·)
      else
        (unescape bytes fuel (pos + if c.toNat < 0x80 then 1 else 6) (c :: t)).map (92 :: ·)
  | fuel + 1, pos, c :: t =>
    (unescape bytes fuel (pos + places [c]) t).map (c.toNat :: ·)

/-- The code points of a body or of a part of it. -/
def decode (raw bytes : Bool) (t : Text) : Except Cause Points :=
  if raw then .ok t.points else unescape bytes (t.length + 1) 0 t

/-! ### Formatted strings -/

/-- The text before the next brace that counts, the rest from that brace on, and whether the text ends
with a doubled brace, which is one brace of the text. In a format no brace is doubled, and the braces
around the name of a character do not count. -/
def literalPart (raw nested : Bool) : (fuel : Nat) → Text → Text × Text × Bool
  | 0, t => ([], t, false)
  | _ + 1, [] => ([], [], false)
  | fuel + 1, c :: t =>
    let goOn (piece : Text) (t : Text) : Text × Text × Bool :=
      let (a, b) := literalPart raw nested fuel t
      (piece ++ a, b)
    let atBrace (before : Text) (c : Char) (t : Text) : Text × Text × Bool :=
      if !nested && t.head? = some c then (before ++ [c], t.drop 1, true)
      else (before, c :: t, false)
    if c = '\x7b' || c = '\x7d' then atBrace [] c t
    else if raw || c ≠ '\\' then goOn [c] t
    else match t with
      | [] => ([c], [], false)
      | 'N' :: '\x7b' :: t =>
        let name := t.takeWhile (· ≠ '\x7d')
        goOn ("\\N\x7b".toList ++ t.take (name.length + 1)) (t.drop (name.length + 1))
      | 'N' :: t => goOn ("\\N".toList ++ t.take 1) (t.drop 1)
      | d :: t =>
        if d = '\x7b' || d = '\x7d' then atBrace [c] d t
        else goOn [c, d] t

/-- What closes an opening bracket. -/
def closing : Char → Char
  | '(' => ')'
  | '[' => ']'
  | _ => '\x7d'

/-- The text of an expression and the rest behind it. `quote` is the string that is open, by its
quote and size, and `open_` the brackets that are open, innermost first. -/
def expressionText : (fuel : Nat) → (quote : Option (Char × Nat)) → (open_ : List Char) → Text →
    Except Cause (Text × Text)
  | 0, _, _, _ => .error (.misuse .unclosedReplacement)
  | _ + 1, some _, _, [] => .error (.inReplacement "unterminated string")
  | _ + 1, none, [], [] => .error (.misuse .unclosedReplacement)
  | _ + 1, none, o :: _, [] => .error (.inReplacement ("unmatched '" ++ [o] ++ "'"))
  | fuel + 1, quote, open_, c :: t => do
    let take (n : Nat) (quote : Option (Char × Nat)) (open_ : List Char) :
        Except Cause (Text × Text) := do
      let (a, b) ← expressionText fuel quote open_ (t.drop (n - 1))
      return ((c :: t).take n ++ a, b)
    if c = '\\' then throw (.misuse .backslashInReplacement)
    match quote with
    | some (q, size) =>
      if c = q then
        if size = 3 then
          if [q, q].isPrefixOf t then take 3 none open_ else take 1 quote open_
        else take 1 none open_
      else take 1 quote open_
    | none =>
      if c = '\'' || c = '"' then
        if [c, c].isPrefixOf t then take 3 (some (c, 3)) open_ else take 1 (some (c, 1)) open_
      else if c = '(' || c = '[' || c = '\x7b' then
        if 200 ≤ open_.length then throw (.misuse .manyBrackets)
        take 1 none (c :: open_)
      else if c = '#' then throw (.misuse .commentInReplacement)
      else if open_.isEmpty && (c = '!' || c = ':' || c = '\x7d' || c = '=' || c = '<' || c = '>') then
        if t.head? = some '=' && (c = '!' || c = '=' || c = '<' || c = '>') then take 2 none open_
        else if c = '<' || c = '>' then take 1 none open_
        else return ([], c :: t)
      else if c = ')' || c = ']' || c = '\x7d' then
        match open_ with
        | [] => throw (.inReplacement ("unmatched '" ++ [c] ++ "'"))
        | o :: open_ =>
          if closing o = c then take 1 none open_
          else throw (.inReplacement ("closing parenthesis '" ++ [c] ++
            "' does not match opening parenthesis '" ++ [o] ++ "'"))
      else take 1 none open_

end ThaiScript.Program.Quoted
