import Mathlib.Data.List.Sort
import ThaiScript.Lexicon

/-!
# Tables, longest word first

`longestFirst` is insertion by the length of words, so it keeps the order of entries whose words are
equally long. Two lists in which words never grow longer are the same if they agree on the words of
each length, and hence `eq_longestFirst_iff` says all that there is to say about the order of a table.
A word that properly contains another one is longer, so it is tried first.
-/

namespace ThaiScript.Lexicon

/-- The word of `e` is not shorter than that of `f`. -/
def NoShorter (e f : Entry) : Prop := f.1.length ≤ e.1.length

instance : DecidableRel NoShorter := fun e f => inferInstanceAs (Decidable (f.1.length ≤ e.1.length))

instance : Std.Total NoShorter := ⟨fun e f => Nat.le_total f.1.length e.1.length⟩

instance : IsTrans Entry NoShorter := ⟨fun _ _ _ h h' => Nat.le_trans h' h⟩

theorem insertByLength_eq_orderedInsert (e : Entry) (es : List Entry) :
    insertByLength e es = es.orderedInsert NoShorter e := by
  induction es with
  | nil => rfl
  | cons f es ih =>
    rw [insertByLength, List.orderedInsert_cons, ih]
    rfl

theorem longestFirst_eq_insertionSort (es : List Entry) :
    longestFirst es = es.insertionSort NoShorter := by
  induction es with
  | nil => rfl
  | cons e es ih =>
    rw [longestFirst, insertByLength_eq_orderedInsert, ih, List.insertionSort_cons]

theorem longestFirst_perm (es : List Entry) : (longestFirst es).Perm es := by
  rw [longestFirst_eq_insertionSort]
  exact List.perm_insertionSort NoShorter es

/-! ## Entries of one length -/

/-- The entries whose words have `n` characters, in their order. -/
def ofLength (n : Nat) (es : List Entry) : List Entry := es.filter fun e => e.1.length = n

theorem mem_ofLength {n : Nat} {es : List Entry} {e : Entry} :
    e ∈ ofLength n es ↔ e ∈ es ∧ e.1.length = n := by
  simp [ofLength]

theorem ofLength_cons_self (e : Entry) (es : List Entry) :
    ofLength e.1.length (e :: es) = e :: ofLength e.1.length es := by
  simp [ofLength]

theorem ofLength_cons_of_ne {n : Nat} {e : Entry} (h : e.1.length ≠ n) (es : List Entry) :
    ofLength n (e :: es) = ofLength n es := by
  simp [ofLength, h]

theorem pairwise_ofLength (n : Nat) (es : List Entry) : (ofLength n es).Pairwise NoShorter := by
  refine List.pairwise_of_forall_mem_list fun e he f hf => ?_
  have hlength : f.1.length = e.1.length := (mem_ofLength.mp hf).2.trans (mem_ofLength.mp he).2.symm
  exact hlength.le

theorem ofLength_longestFirst (n : Nat) (es : List Entry) :
    ofLength n (longestFirst es) = ofLength n es := by
  have hkept : (ofLength n es).Sublist (longestFirst es) := by
    rw [longestFirst_eq_insertionSort]
    exact List.sublist_insertionSort (pairwise_ofLength n es) List.filter_sublist
  have hsub : (ofLength n es).Sublist (ofLength n (longestFirst es)) := by
    simpa [ofLength, List.filter_filter] using hkept.filter fun e => e.1.length = n
  have hlength : (ofLength n es).length = (ofLength n (longestFirst es)).length :=
    ((longestFirst_perm es).filter _).length_eq.symm
  exact (hsub.eq_of_length hlength).symm

theorem pairwise_longestFirst (es : List Entry) : (longestFirst es).Pairwise NoShorter := by
  rw [longestFirst_eq_insertionSort]
  exact List.pairwise_insertionSort NoShorter es

/-! ## The order of a table -/

theorem mem_iff_of_ofLength {es fs : List Entry} (h : ∀ n, ofLength n es = ofLength n fs)
    (e : Entry) : e ∈ es ↔ e ∈ fs := by
  have hmem : e ∈ ofLength e.1.length es ↔ e ∈ ofLength e.1.length fs := by rw [h]
  simpa [mem_ofLength] using hmem

/-- Which entries there are for words of each length decides on the whole list. -/
theorem eq_of_ofLength {es fs : List Entry} (hes : es.Pairwise NoShorter)
    (hfs : fs.Pairwise NoShorter) (h : ∀ n, ofLength n es = ofLength n fs) : es = fs := by
  induction es generalizing fs with
  | nil =>
    refine (List.eq_nil_iff_forall_not_mem.mpr fun f hf => ?_).symm
    exact List.not_mem_nil ((mem_iff_of_ofLength h f).mpr hf)
  | cons e es ih =>
    cases fs with
    | nil => exact absurd ((mem_iff_of_ofLength h e).mp List.mem_cons_self) List.not_mem_nil
    | cons f fs =>
      rw [List.pairwise_cons] at hes hfs
      -- neither of the two that come first is the shorter one
      have hle : e.1.length ≤ f.1.length := by
        rcases List.mem_cons.mp ((mem_iff_of_ofLength h e).mp List.mem_cons_self) with rfl | he
        · exact Nat.le_refl _
        · exact hfs.1 e he
      have hge : f.1.length ≤ e.1.length := by
        rcases List.mem_cons.mp ((mem_iff_of_ofLength h f).mpr List.mem_cons_self) with rfl | hf
        · exact Nat.le_refl _
        · exact hes.1 f hf
      have hlength : e.1.length = f.1.length := Nat.le_antisymm hle hge
      have hhead := h e.1.length
      rw [ofLength_cons_self, hlength, ofLength_cons_self] at hhead
      obtain ⟨rfl, htail⟩ := List.cons.inj hhead
      refine congrArg _ (ih hes.2 hfs.2 fun n => ?_)
      by_cases hn : e.1.length = n
      · rwa [← hn]
      · have hothers := h n
        rwa [ofLength_cons_of_ne hn, ofLength_cons_of_ne hn] at hothers

/-- A table is ordered by falling length of its words in just one way that keeps the order of words
of one length, and none of them stands in front of another one that properly contains it. The length
is that in characters. -/
theorem eq_longestFirst_iff (es : List Entry) :
    (longestFirst es).Perm es ∧
    (∀ fs, fs = longestFirst es ↔
      fs.Pairwise NoShorter ∧ ∀ n, ofLength n fs = ofLength n es) ∧
    (longestFirst es).Pairwise fun e f => ¬ (e.1 <:+: f.1 ∧ e.1 ≠ f.1) := by
  refine ⟨longestFirst_perm es, fun fs => ⟨?_, ?_⟩, ?_⟩
  · rintro rfl
    exact ⟨pairwise_longestFirst es, fun n => ofLength_longestFirst n es⟩
  · rintro ⟨hfs, hlengths⟩
    refine eq_of_ofLength hfs (pairwise_longestFirst es) fun n => ?_
    rw [hlengths, ofLength_longestFirst]
  · refine (pairwise_longestFirst es).imp fun h => ?_
    rintro ⟨hwithin, hne⟩
    exact hne (hwithin.eq_of_length_le h)

/-- Three letters come before two that take up more bytes, and two entries for one word stay as they
are. -/
example : longestFirst [("ลบ", "1"), ("abc", "2"), ("", "3"), ("ลบ", "0")] =
    ([("abc", "2"), ("ลบ", "1"), ("ลบ", "0"), ("", "3")] : List Entry) := by decide

end ThaiScript.Lexicon
