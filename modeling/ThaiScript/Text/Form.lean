import Std.Data.HashMap
import ThaiScript.Text.Basic
import ThaiScript.Text.FormTable

/-!
# Compatibility forms

Texts that differ in how their characters are encoded, but not in what they are, have the same form.
The form is made by taking characters apart, putting the marks behind each in the order of their
classes, and composing what can be composed. Only the characters of identifiers are known.
-/

namespace ThaiScript.Text

namespace Form

instance charHash : Hashable Char := instHashableChar

/-- The parts of a text that each end with a semicolon. -/
def parts : Text → List Text
  | [] => []
  | c :: t =>
    if c = ';' then [] :: parts t
    else match parts t with
      | [] => [[c]]
      | p :: ps => (c :: p) :: ps

def pairs : Text → List (Char × Char)
  | a :: b :: t => (a, b) :: pairs t
  | _ => []

/-- Pairs a run of characters with texts; an empty one is left out. -/
def run (first : Nat) (forms : List Text) : List (Char × Text) :=
  (forms.zipIdx.filter fun f => !f.1.isEmpty).map fun f => (Char.ofNat (first + f.2), f.1)

/-- The characters that are no form of their own, apart from those that are made by marks. -/
def known : Std.HashMap Char Text :=
  .ofList ((FormTable.singles.flatMap fun r => run r.1 (r.2.toList.map fun c => [c])) ++
    FormTable.sequences.flatMap fun r => run r.1 (parts r.2.toList))

/-- What marks make characters into: a character, the mark, and what they make. -/
def compositions : List (Char × Char × Char) :=
  FormTable.composites.flatMap fun m =>
    (pairs m.2.toList).map fun p => (p.1, Char.ofNat m.1, p.2)

def bases : Std.HashMap Char (Char × Char) :=
  .ofList (compositions.map fun c => (c.2.2, (c.1, c.2.1)))

def composites : Std.HashMap (Char × Char) Char :=
  .ofList (compositions.map fun c => ((c.1, c.2.1), c.2.2))

def classes : Std.HashMap Char Nat :=
  .ofList (FormTable.classes.flatMap fun r =>
    (List.range' r.1 (r.2.1 + 1 - r.1)).map fun n => (Char.ofNat n, r.2.2))

/-- The combining class of a mark; a character that is no mark has class 0. -/
def combiningClass (c : Char) : Nat := classes.getD c 0

/-! ### Syllables of Hangul -/

def syllableBase : Nat := 0xAC00
def leadBase : Nat := 0x1100
def vowelBase : Nat := 0x1161
def tailBase : Nat := 0x11A7
def leadCount : Nat := 19
def vowelCount : Nat := 21
def tailCount : Nat := 28

/-- The letters of a syllable. -/
def letters? (c : Char) : Option Text :=
  let n := c.toNat
  if n < syllableBase || syllableBase + leadCount * vowelCount * tailCount ≤ n then none
  else
    let i := n - syllableBase
    let lead := Char.ofNat (leadBase + i / (vowelCount * tailCount))
    let vowel := Char.ofNat (vowelBase + i / tailCount % vowelCount)
    some (if i % tailCount = 0 then [lead, vowel]
      else [lead, vowel, Char.ofNat (tailBase + i % tailCount)])

/-- The syllable that a letter makes with a letter or a syllable before it. -/
def syllable? (a b : Char) : Option Char :=
  let m := a.toNat
  let n := b.toNat
  if leadBase ≤ m && m < leadBase + leadCount && vowelBase ≤ n && n < vowelBase + vowelCount then
    some (Char.ofNat (syllableBase + ((m - leadBase) * vowelCount + (n - vowelBase)) * tailCount))
  else if syllableBase ≤ m && m < syllableBase + leadCount * vowelCount * tailCount &&
      (m - syllableBase) % tailCount = 0 && tailBase < n && n < tailBase + tailCount then
    some (Char.ofNat (m + (n - tailBase)))
  else none

/-! ### Taking apart -/

/-- Takes off marks, the last one first. -/
def takeApart : (fuel : Nat) → Char → Text
  | 0, c => [c]
  | fuel + 1, c =>
    match bases[c]? with
    | some (a, mark) => takeApart fuel a ++ [mark]
    | none => [c]

/-- No character is made by more than three marks. -/
def maxMarks : Nat := 3

def decompose (c : Char) : Text :=
  (known.getD c [c]).flatMap fun c => (letters? c).getD (takeApart maxMarks c)

/-- Puts a mark in front of the marks of a higher class that stand at the end of the reversed text. -/
def insertMark (c : Char) : Text → Text
  | [] => [c]
  | d :: t =>
    if combiningClass c ≠ 0 ∧ combiningClass c < combiningClass d then d :: insertMark c t
    else c :: d :: t

/-! ### Composing -/

/-- The character that two make together. -/
def composite? (a b : Char) : Option Char :=
  composites[(a, b)]? <|> syllable? a b

/-- A text on the way to its form: the text before the last character that is no mark, that one, and
what follows it; both texts are reversed. -/
structure Partial where
  before : Text
  last : Option Char
  behind : Text

def Partial.text (p : Partial) : Text := (p.behind ++ p.last.toList ++ p.before).reverse

/-- A character is composed with the last one that is no mark, unless something of its class or above
stands between them. -/
def Partial.push (p : Partial) (c : Char) : Partial :=
  let isNext := match p.behind with
    | [] => true
    | d :: _ => combiningClass d < combiningClass c
  let composed := if isNext then p.last.bind fun a => composite? a c else none
  match composed with
  | some a => { p with last := some a }
  | none =>
    if combiningClass c = 0 then ⟨p.behind ++ p.last.toList ++ p.before, some c, []⟩
    else { p with behind := c :: p.behind }

end Form

/-- The compatibility form of a text. -/
def compatible (t : Text) : Text :=
  if t.all fun c => c.toNat < 0x80 then t
  else
    let marked := ((t.flatMap Form.decompose).foldl (fun done c => Form.insertMark c done) []).reverse
    (marked.foldl Form.Partial.push ⟨[], none, []⟩).text

end ThaiScript.Text
