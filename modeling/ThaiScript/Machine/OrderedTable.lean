import Std.Data.TreeMap

/-!
# Ordered tables

A table keeps entries in the order in which their keys came in. An entry that is taken out leaves a gap,
until the entries are put closer together when there is no room for another one. An index leads from a
hash to the places of the entries that have it, so only these are compared with a key.
-/

namespace ThaiScript.Machine

structure Entry (α β : Type) where
  hash : Nat
  key : α
  value : β

structure OrderedTable (α β : Type) where
  /-- The entries, with a gap where one was taken out. -/
  places : Array (Option (Entry α β))
  /-- The places of the entries with a hash, the earliest first. -/
  index : Std.TreeMap Nat (List Nat)
  /-- The number of entries. -/
  size : Nat
  /-- The number of entries that there is room for. -/
  room : Nat

namespace OrderedTable

variable {α β : Type}

def empty : OrderedTable α β := ⟨#[], ∅, 0, 0⟩

/-- Puts an entry behind all others, whether there is room or not. -/
def append (t : OrderedTable α β) (e : Entry α β) : OrderedTable α β :=
  let ⟨places, index, size, room⟩ := t
  let place := places.size
  ⟨places.push (some e), index.alter e.hash fun is => some (is.getD [] ++ [place]), size + 1, room⟩

def ofEntries (es : List (Entry α β)) : OrderedTable α β := es.foldl append empty

def entries (t : OrderedTable α β) : List (Entry α β) := t.places.toList.filterMap id

/-- The keys and values, in order. -/
def toList (t : OrderedTable α β) : List (α × β) := t.entries.map fun e => (e.key, e.value)

def keys (t : OrderedTable α β) : List α := t.entries.map (·.key)

/-- The entry at a place. -/
def get? (t : OrderedTable α β) (place : Nat) : Option (Entry α β) := (t.places[place]?).bind id

/-- The least power of two from `size` on that is no less than `n`. -/
def powerFrom : (steps size n : Nat) → Nat
  | 0, size, _ => size
  | steps + 1, size, n => if size < n then powerFrom steps (2 * size) n else size

/-- The number of entries for which there is room in a table that is made for `n`. -/
def capacity (n : Nat) : Nat := powerFrom 64 8 n * 2 / 3

/-- Puts the entries closer together, with room for more of them. -/
def compact (t : OrderedTable α β) : OrderedTable α β :=
  let n := t.size
  let t := if t.places.size = n then t else ofEntries t.entries
  { t with room := capacity (3 * n) - n }

/-- Puts in an entry whose key is not there. -/
def push (t : OrderedTable α β) (e : Entry α β) : OrderedTable α β :=
  let t := (if t.room = 0 then t.compact else t).append e
  { t with room := t.room - 1 }

/-- Gives the key at a place another value. -/
def setValue (t : OrderedTable α β) (place : Nat) (v : β) : OrderedTable α β :=
  { t with places := t.places.modify place fun e => e.map ({ · with value := v }) }

/-- Takes out the entry at a place. -/
def eraseAt (t : OrderedTable α β) (place : Nat) : OrderedTable α β :=
  match t.get? place with
  | some e =>
    { t with
      places := t.places.setIfInBounds place none
      index := t.index.modify e.hash (·.erase place)
      size := t.size - 1 }
  | none => t

/-- The first place with an entry among some places. -/
def firstAmong (t : OrderedTable α β) : (steps place : Nat) → Option Nat
  | 0, _ => none
  | steps + 1, place => if (t.get? place).isSome then some place else firstAmong t steps (place + 1)

/-- The first place with an entry, from a place on. -/
def firstFrom (t : OrderedTable α β) (place : Nat) : Option Nat :=
  t.firstAmong (t.places.size - place) place

/-- The last place with an entry in front of a place. -/
def lastBefore (t : OrderedTable α β) : (place : Nat) → Option Nat
  | 0 => none
  | place + 1 => if (t.get? place).isSome then some place else lastBefore t place

def lastPlace? (t : OrderedTable α β) : Option Nat := t.lastBefore t.places.size

/-- Takes out the last entry, with the gaps behind it. -/
def pop (t : OrderedTable α β) : OrderedTable α β :=
  match t.lastPlace? with
  | some place =>
    let t := t.eraseAt place
    { t with places := t.places.shrink place }
  | none => t

/-- The first of several places whose key passes a test. -/
def findAmong {m : Type → Type} [Monad m] (t : OrderedTable α β) (test : α → m Bool) :
    List Nat → m (Option Nat)
  | [] => return none
  | place :: places =>
    match t.get? place with
    | some e => do if ← test e.key then return some place else findAmong t test places
    | none => findAmong t test places

/-- The place of the key with a hash that passes a test. -/
def find? {m : Type → Type} [Monad m] (t : OrderedTable α β) (hash : Nat) (test : α → m Bool) :
    m (Option Nat) :=
  t.findAmong test (t.index.getD hash [])

end OrderedTable

end ThaiScript.Machine
