import ThaiScript.Text.Blank
import ThaiScript.Text.WordChar

/-!
# Log filters

A log filter is a list of directives between commas. A directive is a level, or a target with a level
behind an equals sign, or a target without one; a span in brackets may follow the target. The library
of logs is not part of this project, which only has to tell whether a filter is in order.
-/

namespace ThaiScript.LogFilter

inductive Fault
  /-- What stands where a level should is none. -/
  | level
  | directive
deriving DecidableEq, Repr

namespace Fault

def message : Fault → Text
  | level => "error parsing level filter: expected one of \"off\", \"error\", \"warn\", \"info\", " ++
      "\"debug\", \"trace\", or a number 0-5"
  | directive => "invalid filter directive"

/-- The message and, if it has a cause of its own, the message of that. -/
def chain : Fault → List Text
  | level => [level.message, level.message]
  | directive => [directive.message]

end Fault

/-- The numeral of a natural number, with an optional sign. -/
def isNumeral (t : Text) : Bool :=
  let digits := match t with
    | '+' :: ds => ds
    | ds => ds
  !digits.isEmpty && digits.all fun c => '0' ≤ c && c ≤ '9'

def valueOf (t : Text) : Nat :=
  t.foldl (fun n c => if '0' ≤ c ∧ c ≤ '9' then 10 * n + (c.toNat - 48) else n) 0

/-- Whether a text names a level. Having none counts as one. -/
def isLevel (t : Text) : Bool :=
  if isNumeral t then valueOf t ≤ 5
  else
    t.isEmpty ||
      Text.asciiLower t ∈ (["off", "error", "warn", "info", "debug", "trace"] : List Text)

/-- The part of a directive that is being read. -/
inductive Part
  | start
  | target
  | span
  /-- A field of a span. -/
  | field (isEmpty : Bool)
  | afterFields
  | afterSpan
  /-- The level begins at a place. -/
  | level (place : Nat)
deriving DecidableEq, Repr

/-- Whether a target may begin with `c`. -/
def opensTarget (c : Char) : Bool := c = '-' || c = ':' || c = '_' || Text.isWordChar c

/-- The part behind the character at a place. -/
def Part.next (place : Nat) (c : Char) : Part → Except Fault Part
  | start => if c = '[' then .ok span else if opensTarget c then .ok target else .error .directive
  | target => .ok (if c = '=' then level (place + 1) else if c = '[' then span else target)
  | span => .ok (if c = ']' then afterSpan else if c = '\x7b' then field true else span)
  | field isEmpty =>
    if c = '\x7d' then if isEmpty then .error .directive else .ok afterFields
    else .ok (field false)
  | afterFields => if c = ']' then .ok afterSpan else .error .directive
  | afterSpan => if c = '=' then .ok (level (place + 1)) else .error .directive
  | level p => .ok (level p)

def scan : (place : Nat) → Part → Text → Except Fault Part
  | _, p, [] => .ok p
  | place, p, c :: t => do scan (place + 1) (← p.next place c) t

/-- What is wrong with a directive. Blanks around it are passed over, but places count from the first
of them. -/
def directiveFault? (d : Text) : Option Fault :=
  match scan 0 .start (Text.trim d) with
  | .error f => some f
  | .ok .target | .ok .afterSpan => none
  | .ok (.level p) => if isLevel (d.drop p) then none else some .level
  | .ok _ => some .directive

/-- The parts of a text between its commas. -/
def directives : Text → List Text
  | [] => [[]]
  | c :: t =>
    if c = ',' then [] :: directives t
    else match directives t with
      | [] => [[c]]
      | d :: ds => (c :: d) :: ds

/-- What is wrong with a filter, in the first directive in which something is. -/
def fault? (filter : Text) : Option Fault :=
  (directives filter).findSome? fun d => if d.isEmpty then none else directiveFault? d

end ThaiScript.LogFilter
