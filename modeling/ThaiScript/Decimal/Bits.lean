import ThaiScript.Number

/-!
# Bits of integers

The bits of a negative integer are those of its two's complement.
-/

namespace ThaiScript.Decimal

/-- Applies an operation on bits, in two's complement wide enough for both. -/
def bitwise (op : Nat → Nat → Nat) (a b : Int) : Int :=
  let width := max a.natAbs.log2 b.natAbs.log2 + 2
  let n := op (a % 2 ^ width).toNat (b % 2 ^ width).toNat
  if n < 2 ^ (width - 1) then n else n - 2 ^ width

end ThaiScript.Decimal
