import ThaiScript.Text.NameTable.Letters
import ThaiScript.Text.NameTable.Others
import ThaiScript.Text.NameTable.Pictures
import ThaiScript.Text.NameTable.Symbols
import ThaiScript.Text.Points

/-!
# Named characters

A character is found by its name, in letters of either case. The names of the syllables of Hangul and
of unified ideographs follow from their numbers; they have to be in upper case.
-/

namespace ThaiScript

namespace Named

/-- The words of a name. -/
def words : Text → List Text
  | [] => [[]]
  | c :: t =>
    if c = ' ' then [] :: words t
    else match words t with
      | [] => [[c]]
      | w :: ws => (c :: w) :: ws

/-- A name on the way through a run: the number of the character, the name before, and what is known
of its own one. -/
structure Place where
  number : Nat
  before : List Text
  /-- The name so far, reversed; nothing is known before the number of common words. -/
  own : Text
  shared : Option Nat

def Place.name (p : Place) : List Text :=
  match p.shared with
  | some n => p.before.take n ++ words p.own.reverse
  | none => []

/-- Goes on to the next character of a run. -/
def Place.next (p : Place) : Place :=
  ⟨p.number + 1, if p.shared.isSome then p.name else p.before, [], none⟩

/-- Looks for a name in the rest of a run. -/
def find (name : List Text) : Place → Text → Option Nat
  | _, [] => none
  | p, c :: t =>
    if c = ';' then
      if p.shared.isSome && p.name = name then some p.number else find name p.next t
    else
      match p.shared with
      | some _ => find name { p with own := c :: p.own } t
      | none => find name { p with shared := some (c.toNat - '0'.toNat) } t

def findIn (name : List Text) (r : NameRun) : Option Nat :=
  find name ⟨r.first, [], [], none⟩ (r.names.flatMap String.toList)

def runs : List NameRun := NameTable.letters ++ NameTable.symbols ++ NameTable.pictures

/-! ### Names that follow from numbers -/

/-- The unified ideographs. -/
def ideographs : List (Nat × Nat) := [
  (0x3400, 0x4DBF), (0x4E00, 0x9FFF), (0x20000, 0x2A6DF), (0x2A700, 0x2B738), (0x2B740, 0x2B81D),
  (0x2B820, 0x2CEA1), (0x2CEB0, 0x2EBE0), (0x30000, 0x3134A)]

def hexDigit? (c : Char) : Option Nat :=
  if '0' ≤ c ∧ c ≤ '9' then some (c.toNat - '0'.toNat)
  else if 'A' ≤ c ∧ c ≤ 'F' then some (c.toNat - 'A'.toNat + 10)
  else none

/-- The ideograph with a number of four or five digits. -/
def ideograph? (digits : Text) : Option Nat :=
  if digits.length = 4 || digits.length = 5 then
    (digits.mapM hexDigit?).bind fun ds =>
      let n := ds.foldl (fun n d => n * 16 + d) 0
      if inRanges ideographs n then some n else none
  else none

def leads : List String := [
  "G", "GG", "N", "D", "DD", "R", "M", "B", "BB", "S", "SS", "", "J", "JJ", "C", "K", "T", "P", "H"]

def vowels : List String := [
  "A", "AE", "YA", "YAE", "EO", "E", "YEO", "YE", "O", "WA", "WAE", "OE", "YO", "U", "WEO", "WE",
  "WI", "YU", "EU", "YI", "I"]

def tails : List String := [
  "", "G", "GG", "GS", "N", "NJ", "NH", "D", "L", "LG", "LM", "LB", "LS", "LT", "LP", "LH", "M", "B",
  "BS", "S", "SS", "NG", "J", "C", "K", "T", "P", "H"]

/-- The place of the longest of some words that a text begins with, and the rest of the text. -/
def longest? (ws : List String) (t : Text) : Option (Nat × Text) :=
  ws.zipIdx.foldl (fun best w =>
    match Text.after? w.1 t with
    | none => best
    | some rest =>
      match best with
      | some (_, r) => if rest.length < r.length then some (w.2, rest) else best
      | none => some (w.2, rest)) none

/-- The syllable that is spelt by its letters. -/
def syllable? (t : Text) : Option Nat := do
  let (lead, t) ← longest? leads t
  let (vowel, t) ← longest? vowels t
  let (tail, t) ← longest? tails t
  if t.isEmpty then some (0xAC00 + (lead * vowels.length + vowel) * tails.length + tail) else none

end Named

/-- The code point that a name stands for. -/
def Points.named? (name : Text) : Option Nat :=
  match Text.after? "HANGUL SYLLABLE " name with
  | some t => Named.syllable? t
  | none =>
    match Text.after? "CJK UNIFIED IDEOGRAPH-" name with
    | some t => Named.ideograph? t
    | none =>
      let upper := name.map Char.toUpper
      (NameTable.others.find? fun o => o.2.toList = upper).map Prod.fst <|>
        Named.runs.findSome? (Named.findIn (Named.words upper))

end ThaiScript
