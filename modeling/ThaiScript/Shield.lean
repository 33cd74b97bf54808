import ThaiScript.Literal
import ThaiScript.Text.Replace

/-!
# Shielding literals

Before words are replaced, every literal of a source gives way to a placeholder: its index between
two private-use characters that the source does not use. Afterwards the literals are put back.
-/

namespace ThaiScript

/-- The private-use characters of the Basic Multilingual Plane. -/
def privateUse : Text := (List.range 0x1900).map fun i => Char.ofNat (0xE000 + i)

/-- The first of some characters that does not occur in `source`, and those behind it. -/
def firstUnused (source : Text) : Text → Option (Char × Text)
  | [] => none
  | c :: cs => if c ∈ source then firstUnused source cs else some (c, cs)

/-- The first two private-use characters that do not occur in `source`. -/
def delimiters? (source : Text) : Option (Char × Char) := do
  let (opening, others) ← firstUnused source privateUse
  let (closing, _) ← firstUnused source others
  return (opening, closing)

def placeholder (opening closing : Char) (n : Nat) : Text :=
  opening :: (Text.ofNat n ++ [closing])

/-- A text whose literals are replaced, with the placeholders and the literals they stand for. -/
structure Shielded where
  text : Text
  table : List (Text × Text)
deriving DecidableEq, Repr

namespace Shielded

/-- Placeholders for the literals of `rest`, numbered from `n`. -/
def number (opening closing : Char) (n : Nat) : List (Text × Text) → Shielded
  | [] => ⟨[], []⟩
  | (literal, gap) :: rest =>
    let p := placeholder opening closing n
    let s := number opening closing (n + 1) rest
    ⟨p ++ gap ++ s.text, (p, literal) :: s.table⟩

/-- Replaces every literal of `source`; a source that uses all private-use characters stays. -/
def of (source : Text) : Shielded :=
  match delimiters? source with
  | none => ⟨source, []⟩
  | some (opening, closing) =>
    let l := Layout.of source
    let s := number opening closing 0 l.rest
    { s with text := l.first ++ s.text }

end Shielded

/-- Puts the literal of each placeholder in its place, one entry of the table after the other. -/
def restore (table : List (Text × Text)) (t : Text) : Text :=
  table.foldl (fun t (p, literal) => Text.replaceAll p literal t) t

end ThaiScript
