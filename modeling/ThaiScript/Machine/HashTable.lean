/-!
# Hash tables

A table keeps members at places. A member goes to the place that the remainder of its hash by the size
of the table names, or to the next free one near it. A member that is taken out leaves its place
erased. The table grows before it is two thirds full, and its members are listed by their places.
-/

namespace ThaiScript.Machine

inductive Slot (α : Type)
  | empty
  | erased
  | member (hash : Nat) (a : α)

structure HashTable (α : Type) where
  slots : Array (Slot α)
  /-- The number of places that are not empty. -/
  filled : Nat
  /-- The number of members. -/
  size : Nat
  /-- Where the next member is taken from. -/
  finger : Nat

namespace HashTable

variable {α : Type}

/-- The least number of places. -/
def leastSize : Nat := 8

def ofSize (n : Nat) : HashTable α := ⟨Array.replicate n .empty, 0, 0, 0⟩

def empty : HashTable α := ofSize leastSize

/-- The hashes and members, by their places. -/
def entries (t : HashTable α) : List (Nat × α) :=
  t.slots.toList.filterMap fun s =>
    match s with
    | .member h a => some (h, a)
    | _ => none

def toList (t : HashTable α) : List α := t.entries.map (·.2)

/-- The number of places behind a place that are looked at with it. -/
def neighbours (t : HashTable α) (place : Nat) : Nat := if place + 9 < t.slots.size then 9 else 0

/-- The place and the hash to go on with, when a place and those near it do not do. -/
def further (t : HashTable α) (place rest : Nat) : Nat × Nat :=
  let rest := rest / 32
  ((place * 5 + 1 + rest) % t.slots.size, rest)

/-- The first empty place among a place and those behind it. -/
def emptyAmong (t : HashTable α) (place : Nat) : (behind : Nat) → Option Nat
  | 0 =>
    match t.slots[place]? with
    | some .empty => some place
    | _ => none
  | behind + 1 =>
    match t.slots[place]? with
    | some .empty => some place
    | _ => emptyAmong t (place + 1) behind

/-- The empty place for a hash. -/
def emptyPlace (t : HashTable α) : (attempts place rest : Nat) → Nat
  | 0, place, _ => place
  | attempts + 1, place, rest =>
    match t.emptyAmong place (t.neighbours place) with
    | some i => i
    | none =>
      let (place, rest) := t.further place rest
      emptyPlace t attempts place rest

/-- How often a search may go on before it has seen every place. -/
def attempts (t : HashTable α) : Nat := 64 + t.slots.size

/-- Puts a member that is not there into a table that has room. -/
def place (t : HashTable α) (hash : Nat) (a : α) : HashTable α :=
  let i := t.emptyPlace t.attempts (hash % t.slots.size) hash
  { t with
    slots := t.slots.setIfInBounds i (.member hash a), filled := t.filled + 1, size := t.size + 1 }

/-- The least size of a table for more than `n` members. -/
def sizeBeyond : (steps size n : Nat) → Nat
  | 0, size, _ => size
  | steps + 1, size, n => if size ≤ n then sizeBeyond steps (2 * size) n else size

/-- Puts the members into a table for more than `n`, unless it would stay as it is. -/
def resize (t : HashTable α) (n : Nat) : HashTable α :=
  let size := sizeBeyond 64 leastSize n
  if size = leastSize && t.slots.size = leastSize && t.filled = t.size then t
  else
    let u := t.entries.foldl (fun u (h, a) => u.place h a) (ofSize size)
    { u with finger := t.finger }

/-- The number of members that a growing table gets room for. -/
def roomFor (n : Nat) : Nat := if 50000 < n then 2 * n else 4 * n

/-- Puts in a member that is not there. -/
def insertNew (t : HashTable α) (hash : Nat) (a : α) : HashTable α :=
  let t := t.place hash a
  if t.filled * 5 < (t.slots.size - 1) * 3 then t else t.resize (roomFor t.size)

/-- Makes room for `more` members, where the table would be too full with them. -/
def reserve (t : HashTable α) (more : Nat) : HashTable α :=
  if (t.slots.size - 1) * 3 ≤ (t.filled + more) * 5 then t.resize (2 * (t.size + more)) else t

/-- Copies the members of another table into one that is empty. -/
def copyFrom (t other : HashTable α) : HashTable α :=
  if t.slots.size = other.slots.size && other.filled = other.size then
    { other with finger := t.finger }
  else
    let u := other.entries.foldl (fun u (h, a) => u.place h a) t
    { u with filled := other.size, size := other.size }

def erase (t : HashTable α) (i : Nat) : HashTable α :=
  { t with slots := t.slots.setIfInBounds i .erased, size := t.size - 1 }

/-- Puts the members closer together when many places are erased. -/
def compact (t : HashTable α) : HashTable α :=
  if t.filled - t.size ≤ (t.slots.size - 1) / 4 then t else t.resize (roomFor t.size)

/-- The first member at or behind a place, with its place; behind the last place comes the first. -/
def memberFrom (t : HashTable α) : (steps place : Nat) → Option (Nat × α)
  | 0, _ => none
  | steps + 1, i =>
    match t.slots[i]? with
    | some (.member _ a) => some (i, a)
    | _ => memberFrom t steps (if i + 1 < t.slots.size then i + 1 else 0)

/-- Takes out a member, the next one from where the last was taken. -/
def pop? (t : HashTable α) : Option (α × HashTable α) :=
  match t.memberFrom t.slots.size (t.finger % t.slots.size) with
  | some (i, a) => some (a, { t.erase i with finger := i + 1 })
  | none => none

/-- The place of a member for which a test holds, among those with a hash. -/
def findAmong {m : Type → Type} [Monad m] (t : HashTable α) (hash : Nat) (test : α → m Bool)
    (place : Nat) : (behind : Nat) → m (Option (Option Nat))
  | 0 =>
    match t.slots[place]? with
    | some (.member h a) => do
      if h = hash then if ← test a then return some (some place)
      return none
    | some .erased => return none
    | _ => return some none
  | behind + 1 =>
    match t.slots[place]? with
    | some (.member h a) => do
      if h = hash then if ← test a then return some (some place)
      findAmong t hash test (place + 1) behind
    | some .erased => findAmong t hash test (place + 1) behind
    | _ => return some none

def findFrom {m : Type → Type} [Monad m] (t : HashTable α) (hash : Nat) (test : α → m Bool) :
    (attempts place rest : Nat) → m (Option Nat)
  | 0, _, _ => return none
  | attempts + 1, place, rest => do
    match ← findAmong t hash test place (t.neighbours place) with
    | some found => return found
    | none =>
      let (place, rest) := t.further place rest
      findFrom t hash test attempts place rest

/-- The place of a member with a hash for which a test holds. -/
def find? {m : Type → Type} [Monad m] (t : HashTable α) (hash : Nat) (test : α → m Bool) :
    m (Option Nat) :=
  findFrom t hash test t.attempts (hash % t.slots.size) hash

end HashTable

end ThaiScript.Machine
