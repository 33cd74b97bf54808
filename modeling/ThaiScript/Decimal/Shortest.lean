import ThaiScript.Decimal.Binary64
import ThaiScript.Text.Basic

/-!
# Decimal digits of binary numbers

A float is written with the fewest digits that read back as the same float, and of several such
numbers with the nearest. Other notations round the exact value to a number of digits or places.
-/

namespace ThaiScript.Decimal

/-- The number `0.d₁d₂… · 10^point`. -/
structure Digits where
  digits : Text
  point : Int
deriving DecidableEq, Repr

/-- The power of ten that bounds a fraction from above most closely. -/
def pointOf (num den : Nat) : Int :=
  let e : Int := (num.log2 : Int) - den.log2
  let guess := e * 30103 / 100000
  let reaches (p : Int) : Bool := den * 10 ^ p.toNat ≤ num * 10 ^ (-p).toNat
  if reaches (guess + 1) then guess + 2
  else if reaches guess then guess + 1
  else if reaches (guess - 1) then guess
  else guess - 1

/-- `n` digits of `whole` at the given point, where rounding up may have carried into a new place. -/
def Digits.ofNat (whole n : Nat) (point : Int) : Digits :=
  let ds := Nat.toDigits 10 whole
  if n < ds.length then ⟨ds.take n, point + 1⟩ else ⟨ds, point⟩

/-- The `n` most significant digits of a fraction. -/
def significant (num den n : Nat) : Digits :=
  if num = 0 then ⟨List.replicate n '0', 1⟩
  else
    let point := pointOf num den
    let shift := (n : Int) - point
    Digits.ofNat (roundDiv (num * 10 ^ shift.toNat) (den * 10 ^ (-shift).toNat)) n point

/-- Whether a point of the grid lies among the numbers that read back: strictly between the bounds,
or on one of them if the mantissa is even. -/
def readsBack (even : Bool) (low high point : Nat) : Bool :=
  if even then low ≤ point && point ≤ high else low < point && point < high

/-- The digits on the first grid of `n`, `n + 1`, … places that has a number that reads back. -/
def searchGrids (b : Binary) (point : Int) : (grids n : Nat) → Digits
  | 0, n => significant b.num b.den n
  | grids + 1, n =>
    let shift := (n : Int) - point
    let unit := 10 ^ (-shift).toNat * 2 ^ (2 - b.exponent).toNat
    let scale := 10 ^ shift.toNat * 2 ^ (b.exponent - 2).toNat
    let value := 4 * b.mantissa * scale
    let narrow := b.mantissa = 2 ^ 52 ∧ -1074 < b.exponent
    let low := (4 * b.mantissa - if narrow then 1 else 2) * scale
    let high := (4 * b.mantissa + 2) * scale
    let even := b.mantissa % 2 = 0
    let a := value / unit
    match readsBack even low high (a * unit), readsBack even low high ((a + 1) * unit) with
    | true, true => Digits.ofNat (roundDiv value unit) n point
    | true, false => Digits.ofNat a n point
    | false, true => Digits.ofNat (a + 1) n point
    | false, false => searchGrids b point grids (n + 1)

/-- The fewest digits that read back. -/
def shortest (b : Binary) : Digits :=
  if b.mantissa = 0 then ⟨['0'], 1⟩ else searchGrids b (pointOf b.num b.den) 17 1

def dropZeros (t : Text) : Text := (t.reverse.dropWhile (· = '0')).reverse

namespace Digits

/-- Positional notation: the whole part and the fraction. -/
def positional (d : Digits) : Text × Text :=
  let n := d.digits.length
  if d.point ≤ 0 then (['0'], List.replicate (-d.point).toNat '0' ++ d.digits)
  else
    let p := d.point.toNat
    (d.digits.take p ++ List.replicate (p - n) '0', d.digits.drop p)

/-- The exponent behind one leading digit, with a sign and at least two digits. -/
def exponentText (mark : Char) (d : Digits) : Text :=
  let e := d.point - 1
  let ds := Text.ofNat e.natAbs
  mark :: (if e < 0 then '-' else '+') :: (if ds.length < 2 then '0' :: ds else ds)

end Digits

def withFraction (whole fraction : Text) : Text :=
  if fraction.isEmpty then whole else whole ++ '.' :: fraction

/-- Which exponents are written in positional notation. -/
structure PositionalRange where
  least : Int
  greatest : Int
deriving DecidableEq, Repr

/-- Numbers from a ten-thousandth to below ten to the sixteenth are written in positional notation. -/
def plainRange : PositionalRange := ⟨-4, 15⟩

def magnitudeText (b : Binary) : Text :=
  let d := shortest b
  if plainRange.least ≤ d.point - 1 ∧ d.point - 1 ≤ plainRange.greatest then
    let (whole, fraction) := d.positional
    withFraction whole (if fraction.isEmpty then ['0'] else fraction)
  else withFraction (d.digits.take 1) (d.digits.drop 1) ++ d.exponentText 'e'

/-- The text of a float. -/
def floatText (f : Float) : Text :=
  match Binary.ofFloat? f with
  | some b => if b.negative then '-' :: magnitudeText b else magnitudeText b
  | none => if f.isNaN then "nan" else if f < 0 then "-inf" else "inf"

/-! ### Rounded notations, of the magnitude alone -/

/-- A fixed number of places behind the point. -/
def fixedText (b : Binary) (places : Nat) : Text :=
  let ds := Text.ofNat (roundDiv (b.num * 10 ^ places) b.den)
  let ds := List.replicate (places + 1 - ds.length) '0' ++ ds
  withFraction (ds.take (ds.length - places)) (ds.drop (ds.length - places))

/-- One digit, a fixed number of places and an exponent. -/
def scientificText (mark : Char) (b : Binary) (places : Nat) : Text :=
  let d := significant b.num b.den (places + 1)
  withFraction (d.digits.take 1) (d.digits.drop 1) ++ d.exponentText mark

/-- A number of significant digits, without trailing zeros unless they are kept. -/
def generalText (mark : Char) (b : Binary) (n : Nat) (keepZeros : Bool) : Text :=
  let n := max n 1
  let d := significant b.num b.den n
  let trim (t : Text) : Text := if keepZeros then t else dropZeros t
  if -4 ≤ d.point - 1 ∧ d.point - 1 < n then
    let (whole, fraction) := d.positional
    withFraction whole (trim fraction)
  else withFraction (d.digits.take 1) (trim (d.digits.drop 1)) ++ d.exponentText mark

end ThaiScript.Decimal
