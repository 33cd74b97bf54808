import ThaiScript.Decimal.Shortest
import ThaiScript.Machine.Complex
import ThaiScript.Text.Decimal

/-!
# Numbers

Integers have any size. Floats are compared with integers exactly. Division rounds down, and the
remainder has the sign of the divisor. Numerals are read in the digits of any script.
-/

namespace ThaiScript.Machine

open Decimal

/-- The order of two fractions with positive denominators. -/
def compareFractions (a : Int) (b : Nat) (c : Int) (d : Nat) : Ordering := compare (a * d) (c * b)

/-- The order of an integer and a float, unless the float is not a number. -/
def compareIntFloat (i : Int) (x : Float) : Option Ordering :=
  match Binary.ofFloat? x with
  | some b => some (compareFractions i 1 b.signedNum b.den)
  | none => if x.isNaN then none else some (if x < 0 then .gt else .lt)

def compareFloats (x y : Float) : Option Ordering :=
  if x < y then some .lt else if x == y then some .eq else if y < x then some .gt else none

inductive Number
  | int (n : Int)
  | float (x : Float)
  | complex (z : Complex)

namespace Number

/-- The order of two numbers. Complex numbers have none. -/
def compare? : Number → Number → Option Ordering
  | int a, int b => some (compare a b)
  | int a, float y => compareIntFloat a y
  | float x, int b => (compareIntFloat b x).map Ordering.swap
  | float x, float y => compareFloats x y
  | _, _ => none

/-- Whether two numbers are equal. -/
def equals : Number → Number → Bool
  | complex a, complex b => a.equals b
  | complex a, b => a.im == 0 && compare? (float a.re) b == some .eq
  | a, complex b => b.im == 0 && compare? a (float b.re) == some .eq
  | a, b => compare? a b == some .eq

def isComplex : Number → Bool
  | complex _ => true
  | _ => false

end Number

/-- A float from an exact number `± m · 2^q`. -/
def ofBinary (negative : Bool) (m : Nat) (q : Int) : Float :=
  nearest negative (m * 2 ^ q.toNat) (2 ^ (-q).toNat)

/-- The remainder of a division that rounds toward zero. It is exact. -/
def floatRemainder (x y : Float) : Float :=
  match Binary.ofFloat? x, Binary.ofFloat? y with
  | some a, some b =>
    let q := min a.exponent b.exponent
    let m := a.mantissa * 2 ^ (a.exponent - q).toNat
    let n := b.mantissa * 2 ^ (b.exponent - q).toNat
    if n = 0 then notANumber else ofBinary a.negative (m % n) q
  | some _, none => if y.isNaN then notANumber else x
  | none, _ => notANumber

/-- The quotient rounded down, and the remainder. -/
def floatDivMod (x y : Float) : Float × Float :=
  let r := floatRemainder x y
  let d := (x - r) / y
  let (r, d) :=
    if r == 0 then (if y < 0 then -0.0 else 0.0, d)
    else if (y < 0) != (r < 0) then (r + y, d - 1)
    else (r, d)
  let q :=
    if d == 0 then withSignOf (x / y) 0.0
    else
      let f := d.floor
      if d - f > 0.5 then f + 1 else f
  (q, r)

/-- The quotient of integers as the nearest float. -/
def divide (a b : Int) : Option Float :=
  let f := nearest ((a < 0) != (b < 0)) a.natAbs b.natAbs
  if f.isInf then none else some f

/-- `b ^ e mod m`, by squaring. -/
def powMod (m : Int) : (fuel : Nat) → (b : Int) → (e : Nat) → Int
  | 0, _, _ => Int.fmod 1 m
  | fuel + 1, b, e =>
    if e = 0 then Int.fmod 1 m
    else
      let half := powMod m fuel b (e / 2)
      let square := Int.fmod (half * half) m
      if e % 2 = 0 then square else Int.fmod (square * b) m

/-- The factor that takes the first of two numbers to their greatest divisor by a modulus, if that
divisor is one: `x` and `y` are those that lead to `r` and `s`. -/
def factorToOne : (steps : Nat) → (r s x y : Int) → Option Int
  | 0, _, _, _, _ => none
  | steps + 1, r, s, x, y =>
    if s = 0 then if r = 1 then some x else none
    else factorToOne steps s (Int.fmod r s) y (x - Int.fdiv r s * y)

/-- The inverse of `a` by a modulus. -/
def inverseMod? (m a : Int) : Option Int :=
  let m : Int := m.natAbs
  (factorToOne (2 * m.natAbs.log2 + 4) (Int.fmod a m) m 1 0).map fun x => Int.fmod x m

/-! ### Numerals -/

/-- The value of a digit in bases up to 36. -/
def digitValue? (c : Char) : Option Nat :=
  let n := c.toNat
  if 48 ≤ n && n ≤ 57 then some (n - 48)
  else if 97 ≤ n && n ≤ 122 then some (n - 87)
  else if 65 ≤ n && n ≤ 90 then some (n - 55)
  else none

/-- The values of the digits of a base that a text begins with, the latest first, and what stands
behind them. Single underscores may stand between digits; there are no digits where others stand. -/
def readDigits (base : Nat) : (done : List Nat) → (afterDigit : Bool) → Text →
    Option (List Nat × Text)
  | done, afterDigit, [] => if afterDigit || done.isEmpty then some (done, []) else none
  | done, afterDigit, c :: t =>
    if c = '_' then if afterDigit then readDigits base done false t else none
    else match (digitValue? c).filter (· < base) with
      | some d => readDigits base (d :: done) true t
      | none => if afterDigit || done.isEmpty then some (done, c :: t) else none

def lowerAscii (t : Text) : Text := t.map fun c => if 'A' ≤ c && c ≤ 'Z' then Char.ofNat (c.toNat + 32) else c

def splitSign : Text → Bool × Text
  | '-' :: t => (true, t)
  | '+' :: t => (false, t)
  | t => (false, t)

/-- The spaces that may stand around a numeral. -/
def isSpacing (c : Char) : Bool := c = ' ' || ('\t' ≤ c && c ≤ '\r')

/-- The sign and the text behind it, without the spaces before them. -/
def signedPart (p : Points) : Bool × Text :=
  splitSign (lowerAscii (p.plainNumeral.dropWhile isSpacing))

def markOf : Nat → Option Char
  | 16 => some 'x'
  | 8 => some 'o'
  | 2 => some 'b'
  | _ => none

/-- Drops the mark of a base, and an underscore behind it. -/
def dropMark (base : Nat) (t : Text) : Text :=
  match t with
  | '0' :: c :: rest =>
    if markOf base ≠ some c then t
    else match rest with
      | '_' :: rest => rest
      | rest => rest
  | t => t

/-- The base that the mark of a numeral stands for. -/
def markedBase (t : Text) : Nat :=
  match t with
  | '0' :: 'x' :: _ => 16
  | '0' :: 'o' :: _ => 8
  | '0' :: 'b' :: _ => 2
  | _ => 10

/-- The most digits that an integer may have to be written in decimal. -/
def digitLimit : Nat := 4300

/-- What a text spells in a base. -/
inductive IntReading
  | value (n : Int)
  | tooLong (digits : Nat)
  | invalid

def isPowerOfTwo (n : Nat) : Bool := 2 ^ n.log2 = n

/-- Reads an integer; base 0 stands for that of its mark, and then zeros alone may begin a decimal
numeral. -/
def readInt (p : Points) (base : Nat) : IntReading :=
  let (negative, t) := signedPart p
  let b := if base = 0 then markedBase t else base
  match readDigits b [] false (dropMark b t) with
  | none => .invalid
  | some (digits, rest) =>
    if !isPowerOfTwo b && digitLimit < digits.length then .tooLong digits.length
    else
      let n := digits.foldr (fun d n => n * b + d) 0
      let zerosFirst := base = 0 && b = 10 && t.head? = some '0' && n ≠ 0
      if digits.isEmpty || zerosFirst || !rest.all isSpacing then .invalid
      else .value (if negative then -n else n)

/-- Digits, in which single underscores may stand between digits. -/
def isDigitRow : (afterDigit : Bool) → Text → Bool
  | afterDigit, [] => afterDigit
  | afterDigit, c :: t =>
    if c = '_' then afterDigit && isDigitRow false t else c.isDigit && isDigitRow true t

def rowValue (t : Text) : Nat := (t.filter Char.isDigit).foldl (fun n c => n * 10 + (c.toNat - 48)) 0

/-- The float that a text spells. -/
def readFloat? (p : Points) : Option Float :=
  let (negative, t) := signedPart p
  let t := (t.reverse.dropWhile isSpacing).reverse
  if t = "inf".toList || t = "infinity".toList then some (if negative then -infinity else infinity)
  else if t = "nan".toList then some notANumber
  else
    let mantissa := t.takeWhile (· ≠ 'e')
    let exponent := (t.dropWhile (· ≠ 'e')).drop 1
    let whole := mantissa.takeWhile (· ≠ '.')
    let fraction := (mantissa.dropWhile (· ≠ '.')).drop 1
    let row (t : Text) : Bool := t.isEmpty || isDigitRow false t
    let (down, exponentRow) := splitSign exponent
    let good := row whole && row fraction && (!whole.isEmpty || !fraction.isEmpty) &&
      (if 'e' ∈ t then isDigitRow false exponentRow else true)
    if good then
      let e : Int := rowValue exponentRow
      let places : Int := (fraction.filter Char.isDigit).length
      some (ofDecimal negative (rowValue (whole ++ fraction)) ((if down then -e else e) - places))
    else none

/-- The text in front of the last sign that belongs to no exponent, and the text from that sign on.
`before` is what was read already, the latest first. -/
def splitAtSign (before : Text) : Text → Option (Text × Text)
  | [] => none
  | c :: t =>
    match splitAtSign (c :: before) t with
    | some found => some found
    | none =>
      let isExponent := before.head? = some 'e'
      if (c = '+' || c = '-') && !before.isEmpty && !isExponent then some (before.reverse, c :: t) else none

/-- The imaginary part that a text spells, in which a number may be missing. -/
def readImaginary? (t : Text) : Option Float :=
  if t = [] || t = ['+'] then some 1 else if t = ['-'] then some (-1) else readFloat? (Text.points t)

/-- The complex number that a text spells, which may stand in brackets. -/
def readComplex? (p : Points) : Option Complex :=
  let trim (t : Text) : Text := ((t.dropWhile isSpacing).reverse.dropWhile isSpacing).reverse
  let t := trim (lowerAscii p.plainNumeral)
  let t? : Option Text :=
    if t.head? = some '(' then
      if t.getLast? = some ')' then some (trim (t.drop 1).dropLast) else none
    else some t
  match t? with
  | none => none
  | some t =>
    if t.isEmpty || t.any isSpacing then none
    else if t.getLast? = some 'j' then
      match splitAtSign [] t.dropLast with
      | some (re, im) =>
        match readFloat? (Text.points re), readImaginary? im with
        | some x, some y => some ⟨x, y⟩
        | _, _ => none
      | none => (readImaginary? t.dropLast).map fun y => ⟨0, y⟩
    else (readFloat? (Text.points t)).map Complex.ofFloat

/-- The digits of a number in a base up to 36. -/
def digitsIn (base n : Nat) : Text :=
  if base = 10 then Text.ofNat n
  else (Nat.toDigits base n)

/-- Whether an integer has too many digits to be written in decimal. -/
def isTooLong (n : Int) : Bool := 14280 < n.natAbs.log2 && 10 ^ digitLimit ≤ n.natAbs

/-- A float rounded to a number of places, which may stand before the point. -/
def roundPlaces (x : Float) (places : Int) : Float :=
  match Binary.ofFloat? x with
  | none => x
  | some b =>
    if 400 < places then x
    else if places < -400 then nearest b.negative 0 1
    else
      let n := roundDiv (b.num * 10 ^ places.toNat) (b.den * 10 ^ (-places).toNat)
      nearest b.negative (n * 10 ^ (-places).toNat) (10 ^ places.toNat)

end ThaiScript.Machine
