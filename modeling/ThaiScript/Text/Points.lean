import ThaiScript.Text.Basic

/-!
# Code points

A string value of a program is a list of code points. Unlike a text it may hold surrogates, which no
encoding of text admits.
-/

namespace ThaiScript

abbrev Points := List Nat

def Text.points (t : Text) : Points := t.map Char.toNat

instance : Coe String Points := ⟨fun s => s.toList.map Char.toNat⟩

namespace Points

def isSurrogate (n : Nat) : Bool := 0xD800 ≤ n && n ≤ 0xDFFF

theorem isSurrogate_toNat (c : Char) : isSurrogate c.toNat = false := by
  have hbounds := toNat_bounds c
  simp only [isSurrogate, Bool.and_eq_false_iff, decide_eq_false_iff_not]
  omega

/-- Whether no text stands for these points. -/
def hasSurrogate (p : Points) : Bool := p.any isSurrogate

/-- A text, in which each surrogate becomes three replacement characters: one for each byte that it
would have in UTF-8. -/
def lossy (p : Points) : Text :=
  p.flatMap fun n => if isSurrogate n then List.replicate 3 '\ufffd' else [Char.ofNat n]

/-- The place of the first run of surrogates, and its length. -/
def surrogateRun? (p : Points) : Option (Nat × Nat) :=
  match p.findIdx? isSurrogate with
  | none => none
  | some i => some (i, ((p.drop i).takeWhile isSurrogate).length)

theorem lossy_points (t : Text) : lossy t.points = t := by
  induction t with
  | nil => rfl
  | cons c t ih =>
    have h : isSurrogate c.toNat = false := isSurrogate_toNat c
    simp only [Text.points, lossy, List.map_cons, List.flatMap_cons, h] at ih ⊢
    simpa [List.replicate] using ih

end Points

end ThaiScript
