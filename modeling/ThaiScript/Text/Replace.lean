import ThaiScript.Text.Basic

/-!
# Replacing a word

`replaceAll w r t` reads `t` once from the left and writes `r` for every occurrence of `w` that does
not overlap an earlier one. What was written is not read again.
-/

namespace ThaiScript.Text

/-- `skip` is the number of characters still to be dropped of an occurrence just replaced. -/
def replaceFrom (word new : Text) : (skip : Nat) → Text → Text
  | _, [] => []
  | skip + 1, _ :: t => replaceFrom word new skip t
  | 0, c :: t =>
    if word.isPrefixOf (c :: t) then new ++ replaceFrom word new (word.length - 1) t
    else c :: replaceFrom word new 0 t

/-- Every occurrence of `word`, which is not empty, becomes `new`. -/
def replaceAll (word new t : Text) : Text :=
  replaceFrom word new 0 t

theorem replaceFrom_eq_drop (word new : Text) (skip : Nat) (t : Text) :
    replaceFrom word new skip t = replaceFrom word new 0 (t.drop skip) := by
  induction t generalizing skip with
  | nil => simp [replaceFrom]
  | cons c t ih =>
    cases skip with
    | zero => simp
    | succ skip => simp [replaceFrom, ih skip]

@[simp] theorem replaceAll_nil (word new : Text) : replaceAll word new [] = [] := rfl

theorem replaceAll_word_append {word new t : Text} (h : word ≠ []) :
    replaceAll word new (word ++ t) = new ++ replaceAll word new t := by
  obtain ⟨c, w, rfl⟩ := List.exists_cons_of_ne_nil h
  rw [replaceAll, List.cons_append, replaceFrom, if_pos, replaceFrom_eq_drop]
  · simp [replaceAll]
  · simp [List.isPrefixOf_iff_prefix]

theorem replaceAll_cons_of_not_isPrefix {word new t : Text} {c : Char}
    (h : ¬ word <+: c :: t) : replaceAll word new (c :: t) = c :: replaceAll word new t := by
  rw [replaceAll, replaceFrom, if_neg]
  · rfl
  · simpa [List.isPrefixOf_iff_prefix] using h

end ThaiScript.Text
