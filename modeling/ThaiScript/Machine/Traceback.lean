import ThaiScript.Machine.Stream
import ThaiScript.Machine.Suggestion

/-!
# Tracebacks

The report on an exception: the exceptions that it was raised from or while handling, the places that
each went through, its class and its text.
-/

namespace ThaiScript.Machine

open Run

def entryLine (e : TraceEntry) : Text :=
  "  File \"<string>\", line " ++ Text.ofNat e.line ++ ", in " ++ e.frame ++ "\n"

def sameEntry (a b : TraceEntry) : Bool := a.line == b.line && a.frame == b.frame

/-- A note on lines that are left out, if there are any. `n` is how often an entry stood in a row. -/
def repetition (n : Nat) : Text :=
  if n ≤ 3 then []
  else "  [Previous line repeated " ++ Text.ofNat (n - 3) ++ " more time" ++
    (if n = 4 then "]\n" else "s]\n")

/-- The lines of a traceback, of which at most three in a row are alike. `last` is the entry before
and how often it stood in a row. -/
def entryLines : (last : Option (TraceEntry × Nat)) → List TraceEntry → Text
  | none, [] => []
  | some (_, n), [] => repetition n
  | none, e :: es => entryLine e ++ entryLines (some (e, 1)) es
  | some (last, n), e :: es =>
    if sameEntry last e then
      (if n < 3 then entryLine e else []) ++ entryLines (some (last, n + 1)) es
    else repetition n ++ entryLine e ++ entryLines (some (e, 1)) es

/-- The heading and the lines of a traceback; nothing for an exception that went nowhere. -/
def traceText (es : List TraceEntry) : Text :=
  if es.isEmpty then [] else "Traceback (most recent call last):\n" ++ entryLines none es

/-- The text of a value, or `instead` if it cannot be made. -/
def textOr (ev : Evaluator) (instead : Text) (v : Value) : Run Text := do
  let made : Run Text := do return escapeSurrogates (← textOf ev v)
  tryCatch made fun s =>
    match s with
    | .raised _ => return instead
    | .exhausted => throw s

/-- The name of a class as reports show it. -/
def reportedClass (c : ClassId) : Run Text := do
  let name ← classQualname c
  match ← classModule? c with
  | some m => return if m = "__main__".toList || m = "builtins".toList then name else m ++ "." ++ name
  | none => return name

/-- Drops the lines of a text that end before a place in it. -/
def lineWith : (fuel : Nat) → (place : Int) → Text → Int × Text
  | 0, place, t => (place, t)
  | fuel + 1, place, t =>
    let line := t.takeWhile (· ≠ '\n')
    let size : Nat := (Utf8.encode line).length
    if line.length < t.length && (size : Int) < place then
      lineWith fuel (place - size - 1) (t.drop (line.length + 1))
    else (place, t)

/-- A text that is at fault, without the blanks before it, and below it as many carets as there are
columns from `column` up to `stop`, or one. There are no carets before the text. -/
def excerptLines (t : Text) (column stop : Int) : Text :=
  let carets := if 0 < stop && column < stop then (stop - column).toNat else 1
  let blanks := t.takeWhile fun c => c = ' ' || c = '\t' || c = '\x0c'
  let t := t.drop blanks.length
  let body := if t.getLast? = some '\n' then t.dropLast else t
  let place := min (column - 1 - blanks.length) ((Utf8.encode body).length : Int)
  let (place, t) := lineWith t.length place t
  let shown := "    " ++ (if t.getLast? = some '\n' then t else t ++ "\n")
  if place < 0 then shown
  else shown ++ "    " ++ List.replicate place.toNat ' ' ++ List.replicate carets '^' ++ "\n"

/-- The number in a slot, unless it is none. -/
def slotNumber? (v : Value) (absent : Int) : Option Int :=
  match v with
  | .none => some absent
  | .int n _ => some n
  | .bool b => some (if b then 1 else 0)
  | _ => none

/-- Where a text is at fault, for an exception about its structure, and the text, if both are known. -/
def faultPlace (ev : Evaluator) (e : ExceptionObject) : Run Text := do
  let slot (name : Text) : Value := (e.slots.find? name).getD .none
  if !e.kind.isA .syntaxError || slot "lineno" matches .none then return []
  let isNarrow := e.cls != .exception .syntaxError
  match slotNumber? (slot "lineno") 0, slotNumber? (slot "offset") (-1) with
  | some line, some column =>
    let file ← match slot "filename" with
      | .none => pure "<string>".toList
      | f => textOr ev "<string>" f
    let place := "  File \"" ++ file ++ "\", line " ++ Text.ofInt line ++ "\n"
    match slotNumber? (slot "end_lineno") line, slotNumber? (slot "end_offset") (-1), slot "text" with
    | some endLine, some endColumn, .str p _ =>
      let size : Int := (Utf8.encode p.lossy).length
      let stop := if isNarrow then -1 else if line < endLine then size else endColumn
      return place ++ excerptLines p.lossy column stop
    | some _, some _, _ => return place
    | _, _, _ => return if isNarrow then place else []
  | _, _ => return []

/-- The last line of a report: the class and the text of an exception. -/
def headline (ev : Evaluator) (r : Ref) (e : ExceptionObject) : Run Text := do
  let name ← reportedClass e.cls
  let place ← faultPlace ev e
  let text ← if place.isEmpty then textOr ev "<exception str() failed>" (.ref r)
    else textOr ev [] ((e.slots.find? "msg").getD .none)
  let hint : Text := match ← suggestion? ev e with
    | some n => ". Did you mean: '" ++ n ++ "'?"
    | none => []
  return place ++ (if text.isEmpty then name else name ++ ": " ++ text) ++ hint ++ "\n"

/-- The notes that were added to an exception. -/
def notesText (ev : Evaluator) (e : ExceptionObject) : Run Text := do
  match e.attrs.find? "__notes__" with
  | some v =>
    match ← objectOf v with
    | .list items =>
      let lines ← items.toList.mapM fun n => textOr ev "<note str() failed>" n
      return lines.flatMap (· ++ "\n")
    | _ => return []
  | none => return []

def directCause : Text :=
  "\nThe above exception was the direct cause of the following exception:\n\n"

def duringHandling : Text :=
  "\nDuring handling of the above exception, another exception occurred:\n\n"

/-- The report on an exception and on those that led to it, of which `seen` are told already. The
chain is followed for as many steps as there are objects. -/
def report (ev : Evaluator) : (steps : Nat) → (seen : List Ref) → Ref → Run Text
  | 0, _, _ => return []
  | steps + 1, seen, r => do
    match ← exceptionObject r with
    | none => return []
    | some e =>
      let seen := r :: seen
      let before ← match e.cause with
        | some c =>
          if c ∈ seen then pure []
          else do pure ((← report ev steps seen c) ++ directCause)
        | none =>
          match e.context with
          | some c =>
            if e.suppressContext || c ∈ seen then pure []
            else do pure ((← report ev steps seen c) ++ duringHandling)
          | none => pure []
      return before ++ traceText e.trace ++ (← headline ev r e) ++ (← notesText ev e)

/-- Writes to the error stream, if there is one. A failure is passed over. -/
def writeError (ev : Evaluator) (t : Text) : Run Unit := do
  let write : Run Unit := do
    match ← systemValue? "stderr" with
    | none | some .none => return
    | some file => writeTo ev file t.points
  tryCatch write fun s =>
    match s with
    | .raised _ => return
    | .exhausted => throw s

/-- Reports an exception. -/
def displayException (ev : Evaluator) (v : Value) : Run Unit := do
  let known ← match v with
    | .ref r => pure ((← exceptionObject r).map fun _ => r)
    | _ => pure none
  match known with
  | some r => writeError ev (← report ev (← state).heap.size [] r)
  | none =>
    writeError ev ("TypeError: print_exception(): Exception expected for value, " ++ (← typeName v) ++
      " found\n")

/-- Reports an exception that cannot be raised, because nobody waits for the answer. -/
def reportIgnored (ev : Evaluator) (r : Ref) (about : Value) : Run Unit := do
  match ← exceptionObject r with
  | none => return
  | some e =>
    let shown : Run Text := do return escapeSurrogates (← ev.repr about)
    let shown ← tryCatch shown fun s =>
      match s with
      | .raised _ => return "<object repr() failed>".toList
      | .exhausted => throw s
    let name ← reportedClass e.cls
    let text ← textOr ev "<exception str() failed>" (.ref r)
    writeError ev ("Exception ignored in: " ++ shown ++ "\n" ++ traceText e.trace ++ name ++ ": " ++
      text ++ "\n")

/-- The text of a value, whatever its class does. A failure is reported and leaves the name of the
class. -/
def printable (ev : Evaluator) (v : Value) : Run Text := do
  let made : Run Text := do return (← textOf ev v).lossy
  tryCatch made fun s => do
    match s with
    | .raised r =>
      reportIgnored ev r v
      return "<unprintable " ++ (← classQualname (← classOf v)) ++ " object>"
    | .exhausted => throw s

/-- The localized message of an exception. -/
def localizedMessage (ev : Evaluator) (l : Language) (v : Value) : Run Text := do
  let text ← printable ev v
  match ← objectOf v with
  | .exception e => return localize l (← classQualname e.cls) text
  | _ => return text

end ThaiScript.Machine
