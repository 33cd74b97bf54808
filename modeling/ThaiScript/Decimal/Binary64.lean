import ThaiScript.Number

/-!
# Binary numbers of 64 bits

A finite float is a whole mantissa times a power of two. Conversely every fraction has a nearest
float; a tie goes to the even mantissa.
-/

namespace ThaiScript.Decimal

/-- The quotient rounded to the nearest whole number; a tie goes to the even one. -/
def roundDiv (num den : Nat) : Nat :=
  let q := num / den
  let r := num % den
  if 2 * r < den then q else if den < 2 * r then q + 1 else q + q % 2

/-- The number `mantissa · 2^exponent`, or its negative. -/
structure Binary where
  negative : Bool
  mantissa : Nat
  exponent : Int
deriving DecidableEq, Repr, Inhabited

namespace Binary

/-- The value of a float, unless it is infinite or not a number. -/
def ofFloat? (f : Float) : Option Binary :=
  let bits := f.toBits.toNat
  let negative := 2 ^ 63 ≤ bits
  let field : Nat := bits / 2 ^ 52 % 2 ^ 11
  let fraction : Nat := bits % 2 ^ 52
  if field = 2047 then none
  else if field = 0 then some ⟨negative, fraction, -1074⟩
  else some ⟨negative, fraction + 2 ^ 52, (field : Int) - 1075⟩

/-- The numerator of the magnitude, over `den`. -/
def num (b : Binary) : Nat := b.mantissa * 2 ^ b.exponent.toNat

def den (b : Binary) : Nat := 2 ^ (-b.exponent).toNat

/-- The numerator of the value. -/
def signedNum (b : Binary) : Int := if b.negative then -b.num else b.num

/-- The value without its fraction. -/
def truncate (b : Binary) : Int :=
  let n : Int := (b.num / b.den : Nat)
  if b.negative then -n else n

/-- The greatest whole number that is not greater. -/
def floor (b : Binary) : Int :=
  if b.negative then Int.fdiv (-(b.num : Int)) b.den else (b.num / b.den : Nat)

/-- The nearest whole number; a tie goes to the even one. -/
def round (b : Binary) : Int :=
  let n : Int := roundDiv b.num b.den
  if b.negative then -n else n

def isWhole (b : Binary) : Bool := b.num % b.den = 0

end Binary

def infinity : Float := Float.ofBits 0x7FF0000000000000

def notANumber : Float := Float.ofBits 0x7FF8000000000000

/-- The bits of the float nearest to `num / den`, without a sign. The binary exponent `q` of the
last place is the one that leaves 53 bits, but never less than that of the smallest float. -/
def nearestBits (num den : Nat) : Nat :=
  if num = 0 then 0
  else
    let e : Int := (num.log2 : Int) - den.log2
    let below := num * 2 ^ (-e).toNat < den * 2 ^ e.toNat
    let top := if below then e - 1 else e
    let q := max (top - 52) (-1074)
    let m := roundDiv (num * 2 ^ (-q).toNat) (den * 2 ^ q.toNat)
    min ((q + 1074).toNat * 2 ^ 52 + m) (2047 * 2 ^ 52)

/-- The float nearest to a fraction; infinite when the fraction is too large. -/
def nearest (negative : Bool) (num den : Nat) : Float :=
  Float.ofBits (UInt64.ofNat (nearestBits num den + if negative then 2 ^ 63 else 0))

/-- The float nearest to an integer, unless it is too large. -/
def ofInt? (i : Int) : Option Float :=
  let f := nearest (i < 0) i.natAbs 1
  if f.isInf then none else some f

/-- The float nearest to `digits · 10^exponent`. An exponent beyond every float is cut off first. -/
def ofDecimal (negative : Bool) (digits : Nat) (exponent : Int) : Float :=
  if digits = 0 then nearest negative 0 1
  else
    let places : Int := (Nat.toDigits 10 digits).length
    if 400 < places + exponent then if negative then -infinity else infinity
    else if places + exponent < -400 then nearest negative 0 1
    else nearest negative (digits * 10 ^ exponent.toNat) (10 ^ (-exponent).toNat)

end ThaiScript.Decimal
