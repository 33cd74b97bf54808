/-!
# Whole numbers

Powers are taken by repeated multiplication, and sums of lists start from zero. Both are fixed here,
so that a library with powers of its own does not change what a definition says.
-/

namespace ThaiScript

-- The later of the two is tried first: a base of no known type is a natural number.

@[default_instance high]
instance intPow : Pow Int Nat := @instPowNat Int Int.instNatPow

@[default_instance high]
instance natPow : Pow Nat Nat := @instPowNat Nat instNatPowNat

instance natZero : Zero Nat := ⟨0⟩

end ThaiScript
