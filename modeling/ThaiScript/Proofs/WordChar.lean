import ThaiScript.Text.WordChar

/-!
# Which characters are word characters

`inRanges` stops at the first range that lies above a number, so it finds a range only if the ranges
ascend. They do in `wordRanges`; hence `isWordChar_iff`, and every part of the table is a class of
word characters. The private-use area holds none.
-/

namespace ThaiScript

theorem exists_of_inRanges {rs : List (Nat × Nat)} {n : Nat} (h : inRanges rs n = true) :
    ∃ r ∈ rs, r.1 ≤ n ∧ n ≤ r.2 := by
  induction rs with
  | nil => cases h
  | cons r rs ih =>
    obtain ⟨lo, hi⟩ := r
    unfold inRanges at h
    split at h
    · cases h
    · split at h
      · exact ⟨(lo, hi), List.mem_cons_self, by omega, by assumption⟩
      · obtain ⟨r, hr, hn⟩ := ih h
        exact ⟨r, List.mem_cons_of_mem _ hr, hn⟩

/-- Whether the ranges stand in ascending order from `start` on and do not overlap. -/
def ascends : (start : Nat) → List (Nat × Nat) → Bool
  | _, [] => true
  | start, (lo, hi) :: rs => Nat.ble start lo && Nat.ble lo hi && ascends (hi + 1) rs

theorem le_of_ascends {start : Nat} {rs : List (Nat × Nat)} (h : ascends start rs = true) :
    ∀ r ∈ rs, start ≤ r.1 := by
  induction rs generalizing start with
  | nil => simp
  | cons r rs ih =>
    obtain ⟨lo, hi⟩ := r
    simp only [ascends, Bool.and_eq_true, Nat.ble_eq] at h
    intro r hr
    rcases List.mem_cons.mp hr with rfl | hr
    · exact h.1.1
    · have := ih h.2 r hr
      omega

theorem inRanges_iff {start : Nat} {rs : List (Nat × Nat)} (h : ascends start rs = true) (n : Nat) :
    inRanges rs n = true ↔ ∃ r ∈ rs, r.1 ≤ n ∧ n ≤ r.2 := by
  refine ⟨exists_of_inRanges, ?_⟩
  rintro ⟨r, hr, hlo, hhi⟩
  induction rs generalizing start with
  | nil => cases hr
  | cons s rs ih =>
    obtain ⟨lo, hi⟩ := s
    simp only [ascends, Bool.and_eq_true, Nat.ble_eq] at h
    unfold inRanges
    rcases List.mem_cons.mp hr with rfl | hr
    · rw [if_neg (by omega), if_pos hhi]
    · have hr1 := le_of_ascends h.2 r hr
      rw [if_neg (by omega), if_neg (by omega)]
      exact ih h.2 hr

namespace Text

theorem wordRanges_ascends : ascends 0 wordRanges = true := by decide +kernel

theorem isWordChar_iff (c : Char) :
    isWordChar c = true ↔ ∃ r ∈ wordRanges, r.1 ≤ c.toNat ∧ c.toNat ≤ r.2 :=
  inRanges_iff wordRanges_ascends c.toNat

theorem isWordChar_of_inRanges {rs : List (Nat × Nat)} (hrs : ∀ r ∈ rs, r ∈ wordRanges) {c : Char}
    (h : inRanges rs c.toNat = true) : isWordChar c = true := by
  obtain ⟨r, hr, hc⟩ := exists_of_inRanges h
  exact (isWordChar_iff c).mpr ⟨r, hrs r hr, hc⟩

/-- No private-use character of the Basic Multilingual Plane is a word character. -/
theorem isWordChar_privateUse {c : Char} (h : 0xE000 ≤ c.toNat ∧ c.toNat ≤ 0xF8FF) :
    isWordChar c = false := by
  have hout : ∀ r ∈ wordRanges, r.2 < 0xE000 ∨ 0xF8FF < r.1 := by decide +kernel
  refine Bool.eq_false_iff.mpr fun hw => ?_
  obtain ⟨r, hr, hlo, hhi⟩ := (isWordChar_iff c).mp hw
  have := hout r hr
  omega

end Text

end ThaiScript
