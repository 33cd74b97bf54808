import ThaiScript.Program.Identifier
import ThaiScript.Program.Token

/-!
# Cutting a text into tokens

Lines are joined inside brackets and behind a backslash. The indentation of a line that holds
something else than a comment opens and closes blocks: it is measured once with tabs to the next
multiple of eight and once with tabs of one column, and both measures have to agree on the order of
two lines.
-/

namespace ThaiScript.Program.Lexer

/-- The last line gets a line feed, if it has none. -/
def endLine (t : Text) : Text :=
  if t.getLast? = some '\n' then t else t ++ ['\n']

def isWordStart (c : Char) : Bool := c.isAlpha || c = '_' || 0x80 ≤ c.toNat

def isWordPart (c : Char) : Bool := c.isAlphanum || c = '_' || 0x80 ≤ c.toNat

def isHexDigit (c : Char) : Bool :=
  c.isDigit || ('a' ≤ c && c ≤ 'f') || ('A' ≤ c && c ≤ 'F')

/-! ### Numbers

Each function takes the text behind what is read and gives the rest, or a cause and the rest from
where the reading stands. -/

abbrev Reading := Except (Cause × Text) Text

def badNumber (kind : String) (t : Text) : Reading := .error (.badNumber kind, t)

/-- Digits in groups that single low lines separate. -/
def decimalTail : Text → Reading
  | [] => .ok []
  | '_' :: t =>
    match t with
    | d :: rest => if d.isDigit then decimalTail rest else badNumber "decimal" t
    | [] => badNumber "decimal" []
  | c :: t => if c.isDigit then decimalTail t else .ok (c :: t)

/-- Whether `word` begins the text and ends there as a word. -/
def wordAhead (word : Text) (t : Text) : Bool :=
  match Text.after? word t with
  | some (c :: _) => !isWordPart c
  | some [] => true
  | none => false

/-- Whether a keyword that may follow a number stands here. -/
def keywordAhead : Text → Bool
  | 'a' :: t => wordAhead "nd" t
  | 'e' :: t => wordAhead "lse" t
  | 'f' :: t => wordAhead "or" t
  | 'i' :: c :: _ => c = 'f' || c = 'n' || c = 's'
  | 'o' :: t => wordAhead "r" t
  | 'n' :: t => wordAhead "ot" t
  | _ => false

/-- A number must not run into a word. -/
def endOfNumber (kind : String) (t : Text) : Reading :=
  match t with
  | [] => .ok t
  | c :: _ =>
    if keywordAhead t then .ok t
    else if isWordPart c then badNumber kind t
    else .ok t

/-- What may stand behind the digits of a decimal number. -/
def imaginary (t : Text) : Reading :=
  match t with
  | 'j' :: t | 'J' :: t => endOfNumber "imaginary" t
  | _ => endOfNumber "decimal" t

/-- An exponent, if there is one. The letter may also begin a keyword. -/
def exponent (t : Text) : Reading :=
  match t with
  | e :: rest =>
    if e = 'e' || e = 'E' then
      match rest with
      | [] => badNumber "decimal" t
      | s :: more =>
        if s = '+' || s = '-' then
          match more with
          | d :: digits =>
            if d.isDigit then decimalTail digits >>= imaginary else badNumber "decimal" more
          | [] => badNumber "decimal" []
        else if s.isDigit then decimalTail more >>= imaginary
        else if keywordAhead t then .ok t
        else badNumber "decimal" t
    else imaginary t
  | [] => .ok []

/-- What may stand behind the point. -/
def fraction (t : Text) : Reading :=
  match t with
  | d :: rest => if d.isDigit then decimalTail rest >>= exponent else exponent t
  | [] => .ok []

/-- Digits of another base, in groups that single low lines separate. -/
def baseDigits (isDigit : Char → Bool) (kind : String) : (first : Bool) → Text → Reading
  | _, [] => badNumber kind []
  | _, '_' :: c :: t =>
    if isDigit c then baseDigits isDigit kind false t
    else if c.isDigit then .error (.badDigit c kind, t)
    else badNumber kind (c :: t)
  | first, c :: t =>
    if isDigit c then
      match t with
      | [] => .ok []
      | d :: _ => if isDigit d || d = '_' then baseDigits isDigit kind false t else .ok t
    else if first && c.isDigit then .error (.badDigit c kind, t)
    else badNumber kind (c :: t)

def inBase (isDigit : Char → Bool) (kind : String) (t : Text) : Reading := do
  let rest ← baseDigits isDigit kind true t
  match rest with
  | c :: t => if c.isDigit then .error (.badDigit c kind, t) else endOfNumber kind rest
  | [] => .ok rest

/-- The zeros that a number begins with. -/
def zeros : Text → Reading
  | [] => .ok []
  | '0' :: t => zeros t
  | '_' :: t =>
    match t with
    | '0' :: rest => zeros rest
    | d :: _ => if d.isDigit then .ok t else badNumber "decimal" t
    | [] => badNumber "decimal" []
  | c :: t => .ok (c :: t)

/-- A number that begins with `0`; zeros may begin a number only if it is nothing but zero, or if it
is no integer. -/
def afterZero (t : Text) : Reading :=
  match t with
  | 'x' :: t | 'X' :: t => inBase isHexDigit "hexadecimal" t
  | 'o' :: t | 'O' :: t => inBase (fun c => '0' ≤ c && c < '8') "octal" t
  | 'b' :: t | 'B' :: t => inBase (fun c => c = '0' || c = '1') "binary" t
  | _ => do
    let rest ← zeros t
    let (nonzero, rest) ← match rest with
      | d :: more => if d.isDigit then (decimalTail more).map fun r => (true, r) else pure (false, rest)
      | [] => pure (false, rest)
    match rest with
    | '.' :: more => fraction more
    | c :: _ =>
      if c = 'e' || c = 'E' then exponent rest
      else if c = 'j' || c = 'J' then imaginary rest
      else if nonzero then .error (.leadingZeros, rest)
      else endOfNumber "decimal" rest
    | [] => if nonzero then .error (.leadingZeros, rest) else .ok rest

/-- A number behind its first digit. -/
def number (first : Char) (t : Text) : Reading :=
  if first = '0' then afterZero t
  else do
    match ← decimalTail t with
    | '.' :: more => fraction more
    | rest => exponent rest

/-! ### Strings -/

/-- The text from the quote on, when letters that may stand before a quote stand here. -/
def quoteBehind (b r u f : Bool) : Text → Option Text
  | [] => none
  | c :: t =>
    let flags :=
      if !(b || u || f) && (c = 'b' || c = 'B') then some (true, r, u, f)
      else if !(b || u || r || f) && (c = 'u' || c = 'U') then some (b, r, true, f)
      else if !(r || u) && (c = 'r' || c = 'R') then some (b, true, u, f)
      else if !(f || b || u) && (c = 'f' || c = 'F') then some (b, r, u, true)
      else none
    match flags, t with
    | some (b, r, u, f), q :: _ => if q = '"' || q = '\'' then some t else quoteBehind b r u f t
    | _, _ => none

/-- The rest behind the closing quotes and the number of lines passed, or only that number when the
string is not closed. `run` counts the quotes just read. -/
def stringEnd (q : Char) (size : Nat) : (run lines : Nat) → Text → Except Nat (Text × Nat)
  | _, lines, [] => .error lines
  | run, lines, c :: t =>
    if c = q then
      if run + 1 = size then .ok (t, lines) else stringEnd q size (run + 1) lines t
    else if c = '\n' then
      if size = 1 then .error lines else stringEnd q size 0 (lines + 1) t
    else if c = '\\' then
      match t with
      | [] => .error lines
      | d :: t => stringEnd q size 0 (if d = '\n' then lines + 1 else lines) t
    else stringEnd q size 0 lines t

/-! ### Operators -/

def threeCharacters : List String := ["**=", "//=", ">>=", "<<=", "..."]

def twoCharacters : List String := [
  "!=", "%=", "&=", "**", "*=", "+=", "-=", "->", "//", "/=", ":=", "<<", "<=", "<>", "==", ">=", ">>",
  "@=", "^=", "|="]

def operatorLength (t : Text) : Nat :=
  if threeCharacters.any fun s => s.toList.isPrefixOf t then 3
  else if twoCharacters.any fun s => s.toList.isPrefixOf t then 2
  else 1

def closes : Char → Char → Bool
  | '(', ')' | '[', ']' | '\x7b', '\x7d' => true
  | _, _ => false

/-! ### The lexer -/

def byteCount (t : Text) : Nat := (t.map Char.utf8Size).sum

/-- An open bracket: its character, its line and the number of bytes before it. -/
structure Bracket where
  char : Char
  line : Nat
  column : Nat

structure State where
  source : Source
  rest : Text
  /-- One more than the number of line feeds read. -/
  line : Nat
  /-- The number of bytes of the line that are read. -/
  column : Nat
  /-- The first of the lines that are kept until the next token is read. -/
  kept : Nat
  /-- The open blocks, innermost first, in both measures. -/
  blocks : List (Nat × Nat)
  /-- The open brackets, innermost first. -/
  brackets : List Bracket
  lineStart : Bool

namespace State

/-- The line that the last character read stands on. -/
def currentLine (s : State) : Nat := min s.line s.source.lastLine

/-- The number of bytes that are read of the current line. -/
def cursor (s : State) : Nat :=
  if s.line ≤ s.source.lastLine then s.column else byteCount (s.source.line s.source.lastLine) + 1

def firstKept (s : State) : Nat := min s.kept s.source.lastLine

/-- Goes on behind a piece of the text. -/
def past (s : State) (piece rest : Text) : State :=
  let n := piece.count '\n'
  if n = 0 then { s with rest, column := s.column + byteCount piece }
  else { s with
    rest, line := s.line + n, column := byteCount (piece.reverse.takeWhile (· ≠ '\n')) }

/-- The token that is read on the way to another state. -/
def token (s after : State) (kind : TokenKind) (text : Text) : Token where
  kind := kind
  text := String.ofList text
  line := s.currentLine
  level := after.brackets.length
  column := some s.column
  endLine := after.currentLine
  endColumn := after.column
  cursor := after.column
  kept := after.firstKept

/-- A token that is not written. -/
def mark (s : State) (kind : TokenKind) : Token where
  kind := kind
  text := ""
  line := s.currentLine
  level := s.brackets.length
  column := none
  endLine := s.currentLine
  endColumn := 0
  cursor := s.cursor
  kept := s.firstKept

def fault (s : State) (cause : Cause) (place : Span) : Fault :=
  s.source.fault cause place s.firstKept s.currentLine

/-- The fault that the innermost open bracket is, if it is never closed. -/
def neverClosed? (s : State) : Option Fault :=
  s.brackets.head?.map fun b => s.fault (.neverClosed b.char) ⟨b.line, b.column + 1, b.line, 0⟩

/-- Stops where the reading stands, for a cause that counts before all others. -/
def stop (s : State) (cause : Cause) : Stop :=
  let line := s.source.line s.currentLine
  let excerpt : Excerpt := ⟨line, Excerpt.charactersWithin s.cursor line, s.currentLine, 0, false⟩
  ⟨⟨cause, s.currentLine, some excerpt⟩, true, s.neverClosed?⟩

/-- Stops for a cause that gives way to a fault of the grammar. -/
def halt (s : State) (cause : Cause) (column : Int) : Stop :=
  ⟨s.fault cause ⟨s.currentLine, column, s.currentLine, 0⟩, false, s.neverClosed?⟩

/-- The end of the text where more was needed. -/
def unfinished (s : State) : Stop :=
  match s.neverClosed? with
  | some f => ⟨f, false, some f⟩
  | none => s.halt .unexpectedEnd s.cursor

/-- Stops behind a backslash that does not end its line, before the text of `s`. -/
def strayBackslash (s : State) : Stop :=
  let before := s.source.linesBetween s.firstKept (s.currentLine - 1)
  let size := if s.firstKept < s.currentLine then byteCount before + 1 else 0
  s.halt .afterBackslash (size + s.column + 1 : Nat)

end State

/-- The blanks and joined lines that a line begins with. -/
def indentText : Text → Text
  | '\\' :: '\n' :: t => '\\' :: '\n' :: indentText t
  | c :: t => if c = ' ' || c = '\t' || c = '\x0c' then c :: indentText t else []
  | [] => []

/-- The indentation of a line in both measures, and the text behind it. A backslash joins the next
line, and then what stood before the first of them counts. -/
def indentation (col alt : Nat) (joined : Option Nat) : Text → Except Bool (Nat × Nat × Text)
  | ' ' :: t => indentation (col + 1) (alt + 1) joined t
  | '\t' :: t => indentation ((col / 8 + 1) * 8) (alt + 1) joined t
  | '\x0c' :: t => indentation 0 0 joined t
  | '\\' :: t =>
    match t with
    | '\n' :: t =>
      if t.isEmpty then .error true
      else indentation col alt (if joined = none ∨ joined = some 0 then some col else joined) t
    | _ => .error false
  | t =>
    match joined with
    | some (n + 1) => .ok (n + 1, n + 1, t)
    | _ => .ok (col, alt, t)

/-- Closes the blocks that are deeper than `col`. -/
def closeBlocks (col : Nat) : List (Nat × Nat) → Nat × List (Nat × Nat)
  | [] => (0, [])
  | b :: bs =>
    if col < b.1 then
      let (n, bs) := closeBlocks col bs
      (n + 1, bs)
    else (0, b :: bs)

/-- The tokens that an indentation gives, and the blocks that are open then. -/
def changeBlocks (s : State) (col alt : Nat) : Except Stop (List Token × State) :=
  let (top, topAlt) := s.blocks.head?.getD (0, 0)
  if col = top then
    if alt = topAlt then .ok ([], s) else .error (s.halt .mixedTabs 1)
  else if top < col then
    if 99 ≤ s.blocks.length then .error (s.halt .tooDeep 1)
    else if alt ≤ topAlt then .error (s.halt .mixedTabs 1)
    else .ok ([s.mark .indent], { s with blocks := (col, alt) :: s.blocks })
  else
    let (n, blocks) := closeBlocks col s.blocks
    let (top, topAlt) := blocks.head?.getD (0, 0)
    if col ≠ top then
      .error (s.halt .badDedent (byteCount (s.source.line s.currentLine) + 1 : Nat))
    else if alt ≠ topAlt then .error (s.halt .mixedTabs 1)
    else .ok (List.replicate n (s.mark .dedent), { s with blocks })

/-- Reads the beginning of a line. Lines of blanks and comments are no matter. -/
def startLine (s : State) : Except Stop (List Token × State) :=
  let s := { s with kept := s.line }
  let indent := indentText s.rest
  let s' := s.past indent (s.rest.drop indent.length)
  match indentation 0 0 none s.rest with
  | .error true => .error s'.unfinished
  | .error false => .error { s' with column := s'.column + 1 }.strayBackslash
  | .ok (col, alt, rest) =>
    let s := { s' with lineStart := false }
    match rest with
    | '\n' :: rest => .ok ([], { s with rest, line := s.line + 1, column := 0, lineStart := true })
    | '#' :: _ =>
      .ok ([], { s with
        rest := (rest.dropWhile (· ≠ '\n')).drop 1, line := s.line + 1, column := 0,
        lineStart := true })
    | _ => if s.brackets.isEmpty then changeBlocks s col alt else .ok ([], s)

def word (s : State) (t : Text) : Except Stop (List Token × State) :=
  let text := t.takeWhile isWordPart
  let s' := s.past text (t.dropWhile isWordPart)
  match badNameChar? text with
  | some c =>
    let piece := text.takeWhile (· ≠ c) ++ [c]
    .error ((s.past piece []).stop (.badCharacter c))
  | none =>
    let kind := if String.ofList text ∈ keywords then .keyword else .name
    .ok ([s.token s' kind text], s')

/-- A string whose quote begins `quoted`; `t` is the text with the letters before the quote. -/
def string (s : State) (t quoted : Text) : Except Stop (List Token × State) :=
  match quoted with
  | [] => .error s.unfinished
  | q :: more =>
    let (size, body) :=
      if [q, q].isPrefixOf more then (3, more.drop 2) else (1, more)
    match stringEnd q size 0 0 body with
    | .ok (rest, _) =>
      let text := t.take (t.length - rest.length)
      let s' := s.past text rest
      .ok ([s.token s' .string text], s')
    | .error lines =>
      let detected := min (s.line + lines) s.source.lastLine
      .error ({ s with column := s.column + 1 }.stop (.unterminated (size == 3) detected))

/-- Puts a fault on the zeros that begin a number, up to the first digit behind them. -/
def onZeros (s : State) (t : Text) (f : Fault) : Fault :=
  let n := (t.takeWhile fun c => c = '0' || c = '_').length
  { f with excerpt := f.excerpt.map fun e =>
      { e with column := s.column + 1, endColumn := s.column + n + 1 } }

def numeral (s : State) (t : Text) (rest : Reading) : Except Stop (List Token × State) :=
  match rest with
  | .ok rest =>
    let text := t.take (t.length - rest.length)
    let s' := s.past text rest
    .ok ([s.token s' .number text], s')
  | .error (cause, rest) =>
    let stop := (s.past (t.take (t.length - rest.length)) rest).stop cause
    .error (if cause = .leadingZeros then { stop with fault := onZeros s t stop.fault } else stop)

def operator (s : State) (c : Char) (t : Text) : Except Stop (List Token × State) :=
  let n := operatorLength t
  let s' := s.past (t.take n) (t.drop n)
  if n ≠ 1 then .ok ([s.token s' .operator (t.take n)], s')
  else if c = '(' || c = '[' || c = '\x7b' then
    if 200 ≤ s.brackets.length then .error (s'.stop .tooManyParens)
    else
      let s' := { s' with brackets := ⟨c, s.currentLine, s.column⟩ :: s.brackets }
      .ok ([s.token s' .operator [c]], s')
  else if c = ')' || c = ']' || c = '\x7d' then
    match s.brackets with
    | [] => .error (s'.stop (.unmatched c))
    | o :: brackets =>
      let s' := { s' with brackets }
      if closes o.char c then .ok ([s.token s' .operator [c]], s')
      else
        let line := if o.line = s.currentLine then none else some o.line
        .error (s'.stop (.mismatched c o.char line))
  else if Text.isPrintable c.toNat then .ok ([s.token s' .operator [c]], s')
  else .error (s'.stop (.badCharacter c))

def isBlank (c : Char) : Bool := c = ' ' || c = '\t' || c = '\x0c'

/-- Reads a token in the middle of a line. `none` is the end of the text. -/
def midLine (s : State) : Except Stop (Option (List Token × State)) :=
  let s := s.past (s.rest.takeWhile isBlank) (s.rest.dropWhile isBlank)
  let comment := if s.rest.head? = some '#' then s.rest.takeWhile (· ≠ '\n') else []
  let behind := s.past comment (s.rest.drop comment.length)
  match behind.rest with
  | [] => if s.brackets.isEmpty then .ok none else .error behind.unfinished
  | c :: more =>
    let t := c :: more
    if isWordStart c then
      match quoteBehind false false false false t with
      | some quoted => (string s t quoted).map some
      | none => (word s t).map some
    else if c = '\n' then
      let newline := { s.token behind .newline [] with cursor := behind.column + 1 }
      let s' := { s with rest := more, line := s.line + 1, column := 0, lineStart := true }
      .ok (some (if s.brackets.isEmpty then [newline] else [], s'))
    else if c = '.' && (more.head?.any Char.isDigit) then (numeral s t (fraction more)).map some
    else if c.isDigit then (numeral s t (number c more)).map some
    else if c = '"' || c = '\'' then (string s t t).map some
    else if c = '\\' then
      match more with
      | '\n' :: more =>
        let s' := { s with rest := more, line := s.line + 1, column := 0 }
        if more.isEmpty then .error s'.unfinished else .ok (some ([], s'))
      | _ => .error { s with column := s.column + 1 }.strayBackslash
    else (operator s c t).map some

/-- Cuts a text. Every step but the last takes a character away, so that its length bounds them. -/
def steps : (fuel : Nat) → State → Array Token → TokenStream
  | 0, s, done => ⟨s.source, done.push (s.mark .endmarker), none⟩
  | fuel + 1, s, done =>
    if s.lineStart && !s.rest.isEmpty then
      match startLine s with
      | .ok (ts, s) => steps fuel s (done ++ ts.toArray)
      | .error e => ⟨s.source, done, some e⟩
    else if s.rest.isEmpty then
      if s.brackets.isEmpty then
        let dedents := (s.blocks.map fun _ => s.mark .dedent).toArray
        ⟨s.source, (done ++ dedents).push (s.mark .endmarker), none⟩
      else ⟨s.source, done, some s.unfinished⟩
    else
      match midLine s with
      | .ok (some (ts, s)) => steps fuel s (done ++ ts.toArray)
      | .ok none => steps fuel { s with rest := [] } done
      | .error e => ⟨s.source, done, some e⟩

end Lexer

/-- The tokens of a text that has a number of lines before it. -/
def tokenizeFrom (base : Nat) (isPart : Bool) (t : Text) : TokenStream :=
  let t := Lexer.endLine (Text.unifyLines t)
  let source : Source := ⟨(t.splitOn '\n').dropLast.toArray, base, isPart⟩
  Lexer.steps (2 * t.length + 2) {
    source, rest := t, line := base + 1, column := 0, kept := base + 1, blocks := [], brackets := [],
    lineStart := true } #[]

/-- The tokens of a text. -/
def tokenize (t : Text) : TokenStream := tokenizeFrom 0 false t

end ThaiScript.Program
