import ThaiScript.Machine.Number
import ThaiScript.Machine.Value

/-!
# Hashes

Equal values have equal hashes. The hash of a number is its remainder by a prime; those of tuples and
frozen sets are mixed from the hashes of their members.
-/

namespace ThaiScript.Machine

open Decimal

/-- The modulus of the hash of a number. -/
def keyModulus : Nat := 2 ^ 61 - 1

/-- The inverse of a power of two. -/
def inversePower (k : Nat) : Nat := 2 ^ ((61 - k % 61) % 61)

/-- The hash -1 stands for none. -/
def avoidMinusOne (k : Int) : Int := if k = -1 then -2 else k

def intHash (n : Int) : Int :=
  let m : Int := (n.natAbs % keyModulus : Nat)
  avoidMinusOne (if n < 0 then -m else m)

/-- The hash of a float; there is none of a float that is not a number. -/
def floatHash? (x : Float) : Option Int :=
  match Binary.ofFloat? x with
  | some b =>
    let k : Nat := b.num % keyModulus * inversePower (-b.exponent).toNat % keyModulus
    some (avoidMinusOne (if b.negative then -(k : Int) else k))
  | none => if x.isNaN then none else some (if x < 0 then -314159 else 314159)

/-- A hash in a word of 64 bits. -/
def hashWord (k : Int) : Nat := (k % 2 ^ 64).toNat

/-- A word of 64 bits with a sign. -/
def signedWord (n : UInt64) : Int := Int.bmod n.toNat (2 ^ 64)

/-- The number that the imaginary part is multiplied by. -/
def imaginaryFactor : Int := 1000003

def numberHash? : Number → Option Int
  | .int n => some (intHash n)
  | .float x => floatHash? x
  | .complex z =>
    match floatHash? z.re, floatHash? z.im with
    | some a, some b => some (avoidMinusOne (Int.bmod (a + imaginaryFactor * b) (2 ^ 64)))
    | _, _ => none

def tupleStep (acc : UInt64) (k : Int) : UInt64 :=
  let acc := acc + UInt64.ofNat (hashWord k) * 14029467366897019727
  ((acc <<< 31) ||| (acc >>> 33)) * 11400714785074694791

/-- The hash of a tuple whose items have the given hashes. -/
def tupleHash (ks : List Int) : Int :=
  let seed : UInt64 := 2870177450012600261
  let acc := ks.foldl tupleStep seed + (UInt64.ofNat ks.length ^^^ (seed ^^^ 3527539))
  if acc = 0xFFFFFFFFFFFFFFFF then 1546275796 else signedWord acc

def shuffleBits (h : UInt64) : UInt64 := ((h ^^^ (89869747 : UInt64)) ^^^ (h <<< 16)) * 3644798167

/-- The hash of a frozen set. -/
def setHash (t : HashTable Value) : Int :=
  let shuffled := t.entries.map fun e => shuffleBits (UInt64.ofNat e.1)
  let h : UInt64 := shuffled.foldl (· ^^^ ·) 0
  let h : UInt64 := h ^^^ ((UInt64.ofNat t.size + 1) * 1927868237)
  let h := h ^^^ ((h >>> 11) ^^^ (h >>> 25))
  let h := h * 69069 + 907133923
  if h = 0xFFFFFFFFFFFFFFFF then 590923713 else signedWord h

end ThaiScript.Machine
