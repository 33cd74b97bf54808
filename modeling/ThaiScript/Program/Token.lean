import ThaiScript.Program.Fault

/-!
# Tokens

The tokens of a program text, and how a text that is cut into tokens ends: properly, or with a cause
that keeps it from being cut further.
-/

namespace ThaiScript.Program

inductive TokenKind
  | name
  | keyword
  | number
  | string
  | operator
  | newline
  | indent
  | dedent
  | endmarker
deriving DecidableEq, Repr, Inhabited

structure Token where
  kind : TokenKind
  text : String
  line : Nat
  /-- The number of brackets that are open behind the token. -/
  level : Nat
  /-- The number of bytes before the token in its line; a token that is not written has none. -/
  column : Option Nat
  endLine : Nat
  endColumn : Nat
  /-- The number of bytes that are read of the last line. -/
  cursor : Nat
  /-- The first of the lines that are kept until the token is read. -/
  kept : Nat
deriving DecidableEq, Repr, Inhabited

/-- A stretch of a text. Columns count bytes from one; one that is not positive stands for none. -/
structure Span where
  line : Nat
  column : Int
  endLine : Nat
  endColumn : Int
deriving DecidableEq, Repr

namespace Token

def firstColumn (t : Token) : Int :=
  match t.column with
  | some n => n + 1
  | none => 0

def lastColumn (t : Token) : Int := if t.column.isSome then t.endColumn + 1 else 0

/-- The stretch from one token to another. -/
def spanTo (t u : Token) : Span := ⟨t.line, t.firstColumn, u.endLine, u.lastColumn⟩

/-- The stretch from a token to where the reading stands behind another. -/
def spanToCursor (t latest : Token) : Span := ⟨t.line, t.firstColumn, latest.endLine, latest.cursor⟩

/-- Where a token is; for one that is not written, where the reading stands. -/
def span (t : Token) : Span :=
  match t.column with
  | some _ => t.spanTo t
  | none => ⟨t.line, t.cursor, t.endLine, 0⟩

end Token

def keywords : List String := [
  "False", "None", "True", "and", "as", "assert", "async", "await", "break", "class", "continue",
  "def", "del", "elif", "else", "except", "finally", "for", "from", "global", "if", "import", "in",
  "is", "lambda", "nonlocal", "not", "or", "pass", "raise", "return", "try", "while", "with",
  "yield"]

/-- A text that is cut into tokens, by its lines. -/
structure Source where
  lines : Array Text
  /-- The number of lines before the text. -/
  base : Nat
  /-- Whether the text is a part of another. -/
  isPart : Bool

namespace Source

/-- The number of the last line. -/
def lastLine (s : Source) : Nat := s.base + s.lines.size

def line (s : Source) (n : Nat) : Text := s.lines.getD (n - s.base - 1) []

/-- The lines from one number to another. -/
def linesBetween (s : Source) (first last : Nat) : Text :=
  List.intercalate ['\n'] ((List.range (last + 1 - first)).map fun i => s.line (first + i))

/-- A fault that is found when the lines from `kept` to `current` are kept. -/
def fault (s : Source) (cause : Cause) (place : Span) (kept current : Nat) : Fault where
  cause := cause
  line := place.line
  excerpt := some {
    text := if current ≤ place.line then s.linesBetween kept current else s.line place.line
    column := place.column
    endLine := place.endLine
    endColumn := place.endColumn
    inBytes := !s.isPart }

end Source

/-- Why a text cannot be cut further. -/
structure Stop where
  fault : Fault
  /-- Whether the cause counts even where the grammar finds another fault before it. -/
  prevails : Bool
  /-- The fault that the innermost open bracket is, if it is never closed. -/
  innermost : Option Fault
deriving Repr

structure TokenStream where
  source : Source
  tokens : Array Token
  stop : Option Stop

/-- A fault that is found when `latest` is the last token looked at. -/
def TokenStream.fault (ts : TokenStream) (cause : Cause) (place : Span) (latest : Token) : Fault :=
  ts.source.fault cause place latest.kept latest.endLine

end ThaiScript.Program
