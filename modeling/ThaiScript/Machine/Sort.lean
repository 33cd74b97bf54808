import ThaiScript.Machine.Compare

/-!
# Sorting

Sorting is stable and goes by runs: the longest start of what is left that ascends, or the longest that
descends, which is reversed. A short run is filled up by putting the items behind it in at their places.
Runs are then merged. An item is only ever asked whether it is less than one that was in front of it.
-/

namespace ThaiScript.Machine

open Run

variable {α : Type} (less : α → α → Run Bool)

/-- Takes the items while each is less than the one before it, onto those that were taken. -/
def takeDescending (last : α) (taken : List α) : List α → Run (List α × List α)
  | [] => return (taken, [])
  | x :: xs => do
    if ← less x last then takeDescending x (x :: taken) xs else return (taken, x :: xs)

/-- Takes the items while none is less than the one before it, onto those that were taken. -/
def takeAscending (last : α) (taken : List α) : List α → Run (List α × List α)
  | [] => return (taken, [])
  | x :: xs => do
    if ← less x last then return (taken, x :: xs) else takeAscending x (x :: taken) xs

/-- The run at the front, in ascending order, and the items behind it. -/
def firstRun : List α → Run (List α × List α)
  | [] => return ([], [])
  | [x] => return ([x], [])
  | x :: y :: ys => do
    if ← less y x then takeDescending less y [y, x] ys
    else
      let (taken, rest) ← takeAscending less y [y, x] ys
      return (taken.reverse, rest)

/-- The place for an item between two places of a run, behind all items that it is not less than. -/
def placeAmong (run : Array α) (x : α) : (steps left right : Nat) → Run Nat
  | 0, left, _ => return left
  | steps + 1, left, right => do
    if right ≤ left then return left
    let middle := left + (right - left) / 2
    match run[middle]? with
    | some y =>
      if ← less x y then placeAmong run x steps left middle
      else placeAmong run x steps (middle + 1) right
    | none => return left

/-- Puts items into a run, each at its place. -/
def insertAll (run : Array α) : List α → Run (Array α)
  | [] => return run
  | x :: xs => do
    let place ← placeAmong less run x run.size 0 run.size
    insertAll (run.insertIdxIfInBounds place x) xs

/-- Merges two runs. An item of the second goes first only if it is less. -/
def merge (as bs : List α) : Run (List α) :=
  match as, bs with
  | [], bs => return bs
  | as, [] => return as
  | a :: as, b :: bs => do
    if ← less b a then return b :: (← merge (a :: as) bs)
    else return a :: (← merge as (b :: bs))
termination_by as.length + bs.length

/-- The least length of the runs of so many items: about 32 to 64 where there are more. -/
def leastRun (n : Nat) : Nat := go n n 0
where
  go : (steps n odd : Nat) → Nat
    | 0, n, odd => n + odd
    | steps + 1, n, odd => if n < 64 then n + odd else go steps (n / 2) (max odd (n % 2))

/-- The runs of at most `count` parts of a list, none but the last shorter than `least`. -/
def runsOf (least : Nat) : (count : Nat) → List α → Run (List (List α))
  | 0, _ | _, [] => return []
  | count + 1, xs => do
    let (run, rest) ← firstRun less xs
    let missing := least - run.length
    let filled ← insertAll less run.toArray (rest.take missing)
    return filled.toList :: (← runsOf least count (rest.drop missing))

/-- Merges each run with the one behind it. -/
def mergePairs : List (List α) → Run (List (List α))
  | as :: bs :: runs => do return (← merge less as bs) :: (← mergePairs runs)
  | runs => return runs

/-- Merges the runs, in at most `rounds` rounds. -/
def mergeAll : (rounds : Nat) → List (List α) → Run (List α)
  | _, [] => return []
  | _, [run] => return run
  | 0, runs => return runs.flatten
  | rounds + 1, runs => do mergeAll rounds (← mergePairs less runs)

def sortBy (xs : List α) : Run (List α) := do
  let n := xs.length
  mergeAll less n (← runsOf less (leastRun n) n xs)

/-- Sorts values by their keys. -/
def sortValues (ev : Evaluator) (vs : List Value) (key : Value) (reverse : Bool) :
    Run (List Value) := do
  let keyed ← vs.mapM fun v => do
    match key with
    | .none => return (v, v)
    | f => return (← ev.call f [v] [], v)
  let keyed := if reverse then keyed.reverse else keyed
  let sorted ← sortBy (fun a b => do truth ev (← ev.compare .lt a.1 b.1)) keyed
  let vs := sorted.map (·.2)
  return if reverse then vs.reverse else vs

end ThaiScript.Machine
