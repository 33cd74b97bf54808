import ThaiScript.Text.Printable

/-!
# Faults of program texts

A fault is a cause and the line that it is reported on. Its message ends with the name that the text
was read under and the line.
-/

namespace ThaiScript.Program

/-- Uses of a construct that the grammar tells apart from other faults. -/
inductive Misuse
  | starAfterKeywords
  | bareGenerator
  | positionalAfterUnpacking
  | positionalAfterKeyword
  | assignmentInArgument
  | missingComma
  | missingElse
  | annotatedTuple
  | annotatedTarget
  | yieldTarget
  | starInComprehension
  | bareComprehensionTarget
  | unpackingInComprehension
  | defaultBeforeRequired
  | nestedParameters
  | nestedLambdaParameters
  | nothingBeforeSlash
  | secondSlash
  | slashBehindStar
  | commaBetweenSlashAndStar
  | missingDefault
  | bareStar
  | starDefault
  | secondStar
  | keywordsDefault
  | behindKeywords
  | starredGroup
  | doubleStarredGroup
  | trailingComma
  | bothExcepts
  | bareExceptTypes
  | missingExceptTypes
  | wildcardTarget
  | patternTarget
  | positionalPattern
  | starredDictValue
  | missingDictValue
  | missingDictColon
  | mixedBytes
  | nonAsciiBytes
  | emptyReplacement
  | deepReplacement
  | manyBrackets
  | loneBrace
  | unclosedReplacement
  | backslashInReplacement
  | commentInReplacement
  | badConversion
  | nulCharacter
deriving DecidableEq, Repr

def Misuse.message : Misuse → String
  | starAfterKeywords => "iterable argument unpacking follows keyword argument unpacking"
  | bareGenerator => "Generator expression must be parenthesized"
  | positionalAfterUnpacking => "positional argument follows keyword argument unpacking"
  | positionalAfterKeyword => "positional argument follows keyword argument"
  | assignmentInArgument =>
    "expression cannot contain assignment, perhaps you meant \"==\"?"
  | missingComma => "invalid syntax. Perhaps you forgot a comma?"
  | missingElse => "expected 'else' after 'if' expression"
  | annotatedTuple => "only single target (not tuple) can be annotated"
  | annotatedTarget => "illegal target for annotation"
  | yieldTarget => "assignment to yield expression not possible"
  | starInComprehension => "iterable unpacking cannot be used in comprehension"
  | bareComprehensionTarget => "did you forget parentheses around the comprehension target?"
  | unpackingInComprehension => "dict unpacking cannot be used in dict comprehension"
  | defaultBeforeRequired => "non-default argument follows default argument"
  | nestedParameters => "Function parameters cannot be parenthesized"
  | nestedLambdaParameters => "Lambda expression parameters cannot be parenthesized"
  | nothingBeforeSlash => "at least one argument must precede /"
  | secondSlash => "/ may appear only once"
  | slashBehindStar => "/ must be ahead of *"
  | commaBetweenSlashAndStar => "expected comma between / and *"
  | missingDefault => "expected default value expression"
  | bareStar => "named arguments must follow bare *"
  | starDefault => "var-positional argument cannot have default value"
  | secondStar => "* argument may appear only once"
  | keywordsDefault => "var-keyword argument cannot have default value"
  | behindKeywords => "arguments cannot follow var-keyword argument"
  | starredGroup => "cannot use starred expression here"
  | doubleStarredGroup => "cannot use double starred expression here"
  | trailingComma => "trailing comma not allowed without surrounding parentheses"
  | bothExcepts => "cannot have both 'except' and 'except*' on the same 'try'"
  | bareExceptTypes => "multiple exception types must be parenthesized"
  | missingExceptTypes => "expected one or more exception types"
  | wildcardTarget => "cannot use '_' as a target"
  | patternTarget => "invalid pattern target"
  | positionalPattern => "positional patterns follow keyword patterns"
  | starredDictValue => "cannot use a starred expression in a dictionary value"
  | missingDictValue => "expression expected after dictionary key and ':'"
  | missingDictColon => "':' expected after dictionary key"
  | mixedBytes => "cannot mix bytes and nonbytes literals"
  | nonAsciiBytes => "bytes can only contain ASCII literal characters"
  | emptyReplacement => "f-string: empty expression not allowed"
  | deepReplacement => "f-string: expressions nested too deeply"
  | manyBrackets => "f-string: too many nested parenthesis"
  | loneBrace => "f-string: single '\x7d' is not allowed"
  | unclosedReplacement => "f-string: expecting '\x7d'"
  | backslashInReplacement => "f-string expression part cannot include a backslash"
  | commentInReplacement => "f-string expression part cannot include '#'"
  | badConversion => "f-string: invalid conversion character: expected 's', 'r', or 'a'"
  | nulCharacter => "source code string cannot contain null bytes"

/-- The kinds of fault. -/
inductive FaultKind
  | structure_
  | indentation
  | tabs
  /-- The text cannot be read at all, and no line is to blame. -/
  | value
  | memory
deriving DecidableEq, Repr

inductive Cause
  | invalid
  | badNumber (kind : String)
  | badDigit (digit : Char) (kind : String)
  | leadingZeros
  | unterminated (triple : Bool) (detected : Nat)
  | badCharacter (c : Char)
  | tooManyParens
  | unmatched (closing : Char)
  | mismatched (closing opening : Char) (line : Option Nat)
  | neverClosed (opening : Char)
  | unexpectedEnd
  | badDedent
  | mixedTabs
  | tooDeep
  | afterBackslash
  | unexpectedIndent
  | unexpectedDedent
  | expected (token : String)
  | expectedBlock (behind : String) (line : Nat)
  | expectedAnyBlock
  | expectedHandler
  | missingCall (name : Text)
  | assignTo (what : String)
  | deleteOf (what : String)
  | assignHere (what : String)
  | equalsHere
  | walrusTo (what : String)
  | annotated (what : String)
  | augmented (what : String)
  | tooManyDigits (digits : Nat)
  | unknownEncoding (name : Text)
  | undecodable (name : Text)
  /-- An escape between two places of a string that stands for no character. -/
  | badEscape (first last : Nat) (reason : String)
  /-- An escape in bytes at a place. -/
  | badByteEscape (place : Nat)
  /-- A fault of an expression in a formatted string. -/
  | inReplacement (message : Text)
  /-- A replacement without an expression before its sign. -/
  | nothingReplaced (sign : Char)
  /-- The parts of the text stand too deep in each other. -/
  | outOfMemory
  | misuse (m : Misuse)
deriving DecidableEq, Repr

namespace Cause

def kind : Cause → FaultKind
  | badDedent | tooDeep | unexpectedIndent | unexpectedDedent | expectedBlock .. | expectedAnyBlock =>
    .indentation
  | mixedTabs => .tabs
  | misuse .nulCharacter => .value
  | outOfMemory => .memory
  | _ => .structure_

/-- Whether the cause was found when the text was cut into tokens. -/
def isLexical : Cause → Bool
  | badNumber _ | badDigit .. | leadingZeros | unterminated .. | badCharacter _ | tooManyParens
  | unmatched _ | mismatched .. => true
  | _ => false

/-- The number of a character in at least four upper-case hexadecimal digits. -/
def hexName (c : Char) : Text :=
  let digits := (Nat.toDigits 16 c.toNat).map Char.toUpper
  List.replicate (4 - digits.length) '0' ++ digits

def message : Cause → Text
  | invalid => "invalid syntax"
  | badNumber kind => "invalid " ++ kind ++ " literal"
  | badDigit d kind => "invalid digit '" ++ [d] ++ "' in " ++ kind ++ " literal"
  | leadingZeros =>
    "leading zeros in decimal integer literals are not permitted; use an 0o prefix for octal integers"
  | unterminated triple n =>
    (if triple then "unterminated triple-quoted string literal" else "unterminated string literal") ++
      " (detected at line " ++ Text.ofNat n ++ ")"
  | badCharacter c =>
    if Text.isPrintable c.toNat then "invalid character '" ++ [c] ++ "' (U+" ++ hexName c ++ ")"
    else "invalid non-printable character U+" ++ hexName c
  | tooManyParens => "too many nested parentheses"
  | unmatched c => "unmatched '" ++ [c] ++ "'"
  | mismatched c o line =>
    "closing parenthesis '" ++ [c] ++ "' does not match opening parenthesis '" ++ [o] ++ "'" ++
      (match line with
        | some n => " on line " ++ Text.ofNat n
        | none => [])
  | neverClosed c => "'" ++ [c] ++ "' was never closed"
  | unexpectedEnd => "unexpected EOF while parsing"
  | badDedent => "unindent does not match any outer indentation level"
  | mixedTabs => "inconsistent use of tabs and spaces in indentation"
  | tooDeep => "too many levels of indentation"
  | afterBackslash => "unexpected character after line continuation character"
  | unexpectedIndent => "unexpected indent"
  | unexpectedDedent => "unexpected unindent"
  | expected t => "expected '" ++ t ++ "'"
  | expectedBlock behind n =>
    "expected an indented block after " ++ behind ++ " on line " ++ Text.ofNat n
  | expectedAnyBlock => "expected an indented block"
  | expectedHandler => "expected 'except' or 'finally' block"
  | missingCall name =>
    "Missing parentheses in call to '" ++ name ++ "'. Did you mean " ++ name ++ "(...)?"
  | assignTo what => "cannot assign to " ++ what
  | deleteOf what => "cannot delete " ++ what
  | assignHere what =>
    "cannot assign to " ++ what ++ " here. Maybe you meant '==' instead of '='?"
  | equalsHere => "invalid syntax. Maybe you meant '==' or ':=' instead of '='?"
  | walrusTo what => "cannot use assignment expressions with " ++ what
  | annotated what => "only single target (not " ++ what ++ ") can be annotated"
  | augmented what => "'" ++ what ++ "' is an illegal expression for augmented assignment"
  | tooManyDigits n =>
    "Exceeds the limit (4300 digits) for integer string conversion: value has " ++ Text.ofNat n ++
      " digits; use sys.set_int_max_str_digits() to increase the limit - Consider hexadecimal for " ++
      "huge integer literals to avoid decimal conversion limits."
  | unknownEncoding name => "unknown encoding: " ++ name
  | undecodable name => "(unicode error) '" ++ name ++ "' codec can't decode the text"
  | badEscape first last reason =>
    "(unicode error) 'unicodeescape' codec can't decode bytes in position " ++ Text.ofNat first ++
      "-" ++ Text.ofNat last ++ ": " ++ reason
  | badByteEscape place => "(value error) invalid \\x escape at position " ++ Text.ofNat place
  | inReplacement message => "f-string: " ++ message
  | nothingReplaced c => "f-string: expression required before '" ++ [c] ++ "'"
  | outOfMemory => []
  | misuse m => m.message

end Cause

/-- What a report shows of a text that is at fault. Columns count from one; one that is not positive
stands for none. -/
structure Excerpt where
  text : Text
  column : Int
  endLine : Nat
  endColumn : Int
  /-- Whether the columns count bytes rather than characters. -/
  inBytes : Bool
deriving DecidableEq, Repr

namespace Excerpt

/-- The number of characters that begin among the first bytes of a text. -/
def charactersWithin : (bytes : Nat) → Text → Nat
  | _, [] => 0
  | bytes, c :: t => if bytes = 0 then 0 else charactersWithin (bytes - c.utf8Size) t + 1

/-- The excerpt with columns that count characters. -/
def inCharacters (e : Excerpt) : Excerpt :=
  let count (n : Int) : Int := if 0 < n then charactersWithin n.toNat (e.text ++ ['\n']) else n
  if e.inBytes then
    { e with column := count e.column, endColumn := count e.endColumn, inBytes := false }
  else e

end Excerpt

structure Fault where
  cause : Cause
  line : Nat
  excerpt : Option Excerpt
deriving DecidableEq, Repr

/-- The message of a fault in a text that is read under the name `name`. -/
def Fault.message (f : Fault) (name : Text) : Text :=
  match f.cause.kind with
  | .value | .memory => f.cause.message
  | _ => f.cause.message ++ " (" ++ name ++ ", line " ++ Text.ofNat f.line ++ ")"

end ThaiScript.Program
