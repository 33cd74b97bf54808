import ThaiScript.Decimal.Shortest

/-!
# Complex numbers

A complex number has a real and an imaginary part, both floats. Quotients scale by the larger part of
the divisor; powers with small whole exponents multiply, others go through polar coordinates.
-/

namespace ThaiScript

open Decimal

/-- Whether a float is negative or the negative zero. -/
def isSignNegative (x : Float) : Bool := 2 ^ 63 ≤ x.toBits.toNat

/-- The float of the magnitude of `x` and the sign of `y`. -/
def withSignOf (y x : Float) : Float := if isSignNegative x == isSignNegative y then x else -x

/-- The float nearest to the square root of `num / 4^half`. -/
def nearestSqrt (num half : Nat) : Float :=
  let scale := 64
  let wide := num * 4 ^ scale
  let root := wide.sqrt
  let exact := root * root = wide
  nearest false (2 * root + if exact then 0 else 1) (2 ^ (half + scale + 1))

/-- The length of the hypotenuse. -/
def hypotenuse (x y : Float) : Float :=
  match Binary.ofFloat? x, Binary.ofFloat? y with
  | some a, some b =>
    let q := min a.exponent b.exponent
    let m := a.mantissa * 2 ^ (a.exponent - q).toNat
    let n := b.mantissa * 2 ^ (b.exponent - q).toNat
    nearestSqrt ((m * m + n * n) * 4 ^ q.toNat) (-q).toNat
  | _, _ => if x.isInf || y.isInf then infinity else notANumber

structure Complex where
  re : Float
  im : Float

namespace Complex

def ofFloat (x : Float) : Complex := ⟨x, 0⟩

def add (a b : Complex) : Complex := ⟨a.re + b.re, a.im + b.im⟩

def sub (a b : Complex) : Complex := ⟨a.re - b.re, a.im - b.im⟩

def mul (a b : Complex) : Complex := ⟨a.re * b.re - a.im * b.im, a.re * b.im + a.im * b.re⟩

def neg (a : Complex) : Complex := ⟨-a.re, -a.im⟩

def conjugate (a : Complex) : Complex := ⟨a.re, -a.im⟩

def isZero (a : Complex) : Bool := a.re == 0 && a.im == 0

/-- Whether two numbers are equal in value. -/
def equals (a b : Complex) : Bool := a.re == b.re && a.im == b.im

/-- Whether two numbers have the same bits. -/
def identical (a b : Complex) : Bool := a.re.toBits == b.re.toBits && a.im.toBits == b.im.toBits

/-- The quotient, unless the divisor is zero. -/
def div? (a b : Complex) : Option Complex :=
  let re := b.re.abs
  let im := b.im.abs
  if re ≥ im then
    if re == 0 then none
    else
      let ratio := b.im / b.re
      let denom := b.re + b.im * ratio
      some ⟨(a.re + a.im * ratio) / denom, (a.im - a.re * ratio) / denom⟩
  else if im ≥ re then
    let ratio := b.re / b.im
    let denom := b.re * ratio + b.im
    some ⟨(a.re * ratio + a.im) / denom, (a.im * ratio - a.re) / denom⟩
  else some ⟨notANumber, notANumber⟩

/-- The product of `r` and the power of `p`, by squaring. -/
def powerTimes : (fuel : Nat) → (r p : Complex) → (n : Nat) → Complex
  | 0, r, _, _ => r
  | fuel + 1, r, p, n =>
    if n = 0 then r
    else powerTimes fuel (if n % 2 = 1 then r.mul p else r) (p.mul p) (n / 2)

def powerNat (a : Complex) (n : Nat) : Complex := powerTimes n ⟨1, 0⟩ a n

/-- The power through polar coordinates; there is none of zero with a negative or complex exponent. -/
def polarPower? (a b : Complex) : Option Complex :=
  if b.isZero then some ⟨1, 0⟩
  else if a.isZero then if b.im != 0 || b.re < 0 then none else some ⟨0, 0⟩
  else
    let length := hypotenuse a.re a.im
    let angle := Float.atan2 a.im a.re
    let size := Float.pow length b.re
    let phase := angle * b.re
    let (size, phase) :=
      if b.im != 0 then (size / Float.exp (angle * b.im), phase + b.im * Float.log length)
      else (size, phase)
    some ⟨size * phase.cos, size * phase.sin⟩

/-- Exponents up to this one are taken by multiplication. -/
def largestMultiplied : Float := 100

def pow? (a b : Complex) : Option Complex :=
  if b.im == 0 && b.re == b.re.floor && b.re.abs ≤ largestMultiplied then
    let n := b.re.abs.toUInt64.toNat
    if b.re > 0 then some (a.powerNat n) else div? ⟨1, 0⟩ (a.powerNat n)
  else polarPower? a b

/-- The text of a part, without a point where it is whole. -/
def partText (x : Float) : Text :=
  let t := floatText x
  if t.drop (t.length - 2) = ".0".toList then t.take (t.length - 2) else t

def signedText (x : Float) : Text :=
  let t := partText x
  if t.head? = some '-' then t else '+' :: t

/-- The text of a number, in parentheses unless it has only an imaginary part. -/
def text (a : Complex) : Text :=
  if a.re == 0 && !isSignNegative a.re then partText a.im ++ "j"
  else "(" ++ partText a.re ++ signedText a.im ++ "j)"

end Complex

end ThaiScript
