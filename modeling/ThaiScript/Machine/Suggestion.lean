import ThaiScript.Encoding.Utf8
import ThaiScript.Machine.Listing

/-!
# Suggestions

For a name that is not there, the nearest of the names that are. Distances are counted on bytes: a
byte that is put in, left out or changed costs two, a change of letter case one. No more than a third
of the bytes may differ.
-/

namespace ThaiScript.Machine

open Run

def changeCost (a b : Nat) : Nat :=
  if a = b then 0
  else if a % 32 ≠ b % 32 then 2
  else
    let lower (n : Nat) : Nat := if 65 ≤ n && n ≤ 90 then n + 32 else n
    if lower a = lower b then 1 else 2

/-- The next row of a table of distances, behind the entry `left`. `row` holds the entry above
`left` and those behind it. -/
def nextRow (a : Nat) : (left : Nat) → (row : List Nat) → Bytes → List Nat
  | left, above :: next :: row, b :: bs =>
    let d := min (above + changeCost a b) (min left next + 2)
    d :: nextRow a d (next :: row) bs
  | _, _, _ => []

def distanceRows (bs : Bytes) : (row : List Nat) → Bytes → List Nat
  | row, [] => row
  | row, a :: as =>
    let first := row.headD 0 + 2
    distanceRows bs (first :: nextRow a first row bs) as

/-- The cost of changing one list of bytes into another. -/
def distance (as bs : Bytes) : Nat :=
  (distanceRows bs ((List.range (bs.length + 1)).map (2 * ·)) as).getLastD 0

def dropCommon : Bytes → Bytes → Bytes × Bytes
  | a :: as, b :: bs => if a = b then dropCommon as bs else (a :: as, b :: bs)
  | as, bs => (as, bs)

/-- Two lists of bytes without what they have in common at both ends. -/
def trimCommon (as bs : Bytes) : Bytes × Bytes :=
  let (as, bs) := dropCommon as bs
  let (as, bs) := dropCommon as.reverse bs.reverse
  (as.reverse, bs.reverse)

/-- The distance of two names, unless they are too long to be compared. -/
def nameDistance? (as bs : Bytes) : Option Nat :=
  let (as, bs) := trimCommon as bs
  if as.isEmpty || bs.isEmpty then some (2 * (as.length + bs.length))
  else if 40 < as.length || 40 < bs.length then none
  else some (distance as bs)

/-- The first of the names nearest to `name`, if it is near enough. -/
def nearestName? (name : Text) (names : List Text) : Option Text :=
  if 750 ≤ names.length then none
  else
    let as := Utf8.encode name
    let best := names.foldl (fun (best : Option (Text × Nat)) n =>
      if n = name then best
      else
        let bs := Utf8.encode n
        let limit := (as.length + bs.length + 3) * 2 / 6
        match nameDistance? as bs with
        | none => best
        | some d =>
          if limit < d then best
          else match best with
            | some (_, e) => if d < e then some (n, d) else best
            | none => some (n, d)) none
    best.map (·.1)

/-- The names that a value lists; none if it cannot list them, or lists something else. -/
def listedNames (ev : Evaluator) (v : Value) : Run (List Text) := do
  let listed ← tryCatch (directory ev v) fun s =>
    match s with
    | .raised _ => return []
    | .exhausted => throw s
  let names := listed.filterMap fun w =>
    match w with
    | .str p _ => some p.lossy
    | _ => none
  return if names.length = listed.length then names else []

/-- A name that may be meant instead of the one that an exception is about. -/
def suggestion? (ev : Evaluator) (e : ExceptionObject) : Run (Option Text) := do
  match e.cls, e.slots.find? "name" with
  | .exception .nameError, some (.str p _) =>
    let name := p.lossy
    match e.trace.getLast? with
    | none => return none
    | some entry =>
      match nearestName? name entry.names with
      | some n => return some n
      | none =>
        match nearestName? name ((← entries entry.globals).names.map (·.1)) with
        | some n => return some n
        | none => return nearestName? name ((← entries (← state).builtins).names.map (·.1))
  | .exception .attributeError, some (.str p _) =>
    match e.slots.find? "obj" with
    | some v => return nearestName? p.lossy (← listedNames ev v)
    | none => return none
  | _, _ => return none

end ThaiScript.Machine
