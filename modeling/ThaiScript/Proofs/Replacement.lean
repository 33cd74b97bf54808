import Mathlib.Data.List.Infix
import ThaiScript.Text.Replace
import ThaiScript.Text.WordChar

/-!
# What replacing a word does to a text

`Rewrites word new t u`: `u` is `t` with `new` in place of some occurrences of `word` that do not
overlap. Both ways of replacing a word rewrite, with and without regard to edges, so what holds of
every rewriting is stated here once. A character that the word does not hold, and that is no word
character where edges count, cuts a text into two parts that are replaced apart.
-/

namespace ThaiScript.Text

/-- `u` is `t` with `new` in place of some occurrences of `word`. -/
inductive Rewrites (word new : Text) : Text → Text → Prop where
  | nil : Rewrites word new [] []
  | hit {t u : Text} : Rewrites word new t u → Rewrites word new (word ++ t) (new ++ u)
  | keep (c : Char) {t u : Text} : Rewrites word new t u → Rewrites word new (c :: t) (c :: u)

namespace Rewrites

variable {word new t u : Text}

theorem eq_nil_iff (h : Rewrites word new t u) (hword : word ≠ []) (hnew : new ≠ []) :
    u = [] ↔ t = [] := by
  cases h with
  | nil => simp
  | hit _ => simp [hword, hnew]
  | keep c _ => simp

theorem mem_iff {c : Char} (h : Rewrites word new t u) (hword : c ∉ word) (hnew : c ∉ new) :
    c ∈ u ↔ c ∈ t := by
  induction h with
  | nil => rfl
  | hit _ ih => simp [hword, hnew, ih]
  | keep d _ ih => simp [ih]

/-- A measure that the word has and what is written for it has not falls with every occurrence. -/
theorem eq_or_countP_lt {p : Char → Bool} (h : Rewrites word new t u)
    (hword : 0 < word.countP p) (hnew : new.countP p = 0) :
    u = t ∨ u.countP p < t.countP p := by
  induction h with
  | nil => exact .inl rfl
  | hit _ ih =>
    right
    rw [List.countP_append, List.countP_append, hnew]
    rcases ih with rfl | ih
    · omega
    · omega
  | keep c _ ih =>
    rcases ih with rfl | ih
    · exact .inl rfl
    · right
      rw [List.countP_cons, List.countP_cons]
      omega

end Rewrites

/-! ## Occurrences cut by a character -/

/-- An occurrence at the head of a text lies before a character that the word does not hold. -/
theorem prefix_append_cons_iff {word a t : Text} {c : Char} (hc : c ∉ word) :
    word <+: a ++ c :: t ↔ word <+: a := by
  induction a generalizing word with
  | nil =>
    cases word with
    | nil => simp
    | cons d word => simp only [List.mem_cons, not_or] at hc; simp [Ne.symm hc.1]
  | cons d a ih =>
    cases word with
    | nil => simp
    | cons e word =>
      simp only [List.mem_cons, not_or] at hc
      simp [ih hc.2]

/-! ## Replacing wherever a word occurs -/

section
variable {word : Text}

/-- A text is read from the left: behind the word where it occurs, else behind one character. -/
theorem occurrence_induction {P : Text → Prop} (h : word ≠ []) (nil : P [])
    (hit : ∀ u, P u → P (word ++ u)) (keep : ∀ c u, ¬ word <+: c :: u → P u → P (c :: u))
    (t : Text) : P t := by
  induction hn : t.length using Nat.strong_induction_on generalizing t with
  | _ n ih =>
    subst hn
    cases t with
    | nil => exact nil
    | cons c t =>
      by_cases hp : word <+: c :: t
      · obtain ⟨u, hu⟩ := hp
        have hlen := congrArg List.length hu
        have hpos := List.length_pos_iff.mpr h
        rw [List.length_append] at hlen
        rw [← hu]
        exact hit u (ih _ (by omega) u rfl)
      · exact keep c t hp (ih _ (by simp) t rfl)

theorem replaceAll_rewrites (h : word ≠ []) (new t : Text) :
    Rewrites word new t (replaceAll word new t) := by
  induction t using occurrence_induction h with
  | nil => exact .nil
  | hit u ih => rw [replaceAll_word_append h]; exact .hit ih
  | keep c u hp ih => rw [replaceAll_cons_of_not_isPrefix hp]; exact .keep c ih

theorem replaceAll_append_cons (h : word ≠ []) {c : Char} (hc : c ∉ word) (new a t : Text) :
    replaceAll word new (a ++ c :: t) = replaceAll word new a ++ c :: replaceAll word new t := by
  induction a using occurrence_induction h with
  | nil =>
    have hp : ¬ word <+: [] ++ c :: t := by rw [prefix_append_cons_iff hc]; simpa using h
    exact replaceAll_cons_of_not_isPrefix hp
  | hit u ih => rw [List.append_assoc, replaceAll_word_append h, replaceAll_word_append h, ih,
      List.append_assoc]
  | keep d u hp ih =>
    have hp' : ¬ word <+: (d :: u) ++ c :: t := by rwa [prefix_append_cons_iff hc]
    rw [List.cons_append] at hp' ⊢
    rw [replaceAll_cons_of_not_isPrefix hp', replaceAll_cons_of_not_isPrefix hp, ih]
    rfl

/-- What a text begins with that holds no first character of the word, it began with before. -/
theorem prefix_of_prefix_replaceAll {c : Char} {w new a : Text} (ha : c ∉ a) (t : Text)
    (h : a <+: replaceAll (c :: w) (c :: new) t) : a <+: t := by
  have hrewrites := replaceAll_rewrites (List.cons_ne_nil c w) (c :: new) t
  generalize replaceAll (c :: w) (c :: new) t = u at h hrewrites
  induction hrewrites generalizing a with
  | nil => exact h
  | hit _ _ =>
    cases a with
    | nil => exact List.nil_prefix
    | cons d a =>
      obtain ⟨rfl, -⟩ := List.cons_prefix_cons.mp h
      exact absurd List.mem_cons_self ha
  | keep d _ ih =>
    cases a with
    | nil => exact List.nil_prefix
    | cons e a =>
      obtain ⟨rfl, hrest⟩ := List.cons_prefix_cons.mp h
      exact List.cons_prefix_cons.mpr
        ⟨rfl, ih (fun hmem => ha (List.mem_cons_of_mem _ hmem)) hrest⟩

/-- What was added behind each occurrence of a word can be taken away again. -/
theorem replaceAll_undo {c : Char} {w : Text} (hw : c ∉ w) (added t : Text) :
    replaceAll (c :: w ++ added) (c :: w) (replaceAll (c :: w) (c :: w ++ added) t) = t := by
  have hword : c :: w ≠ [] := List.cons_ne_nil c w
  have hboth : c :: w ++ added ≠ [] := List.cons_ne_nil c _
  induction t using occurrence_induction hword with
  | nil => rfl
  | hit u ih =>
    rw [replaceAll_word_append hword, replaceAll_word_append hboth, ih]
  | keep d u hp ih =>
    rw [replaceAll_cons_of_not_isPrefix hp, replaceAll_cons_of_not_isPrefix, ih]
    intro hadded
    obtain ⟨rfl, hrest⟩ := List.cons_prefix_cons.mp hadded
    have hrest : w <+: u := prefix_of_prefix_replaceAll hw u ((List.prefix_append w added).trans hrest)
    exact hp (List.cons_prefix_cons.mpr ⟨rfl, hrest⟩)

/-- A part without the first character of the word stays, whatever follows. -/
theorem replaceAll_append_of_not_mem {c : Char} {w a : Text} (ha : c ∉ a) (new t : Text) :
    replaceAll (c :: w) new (a ++ t) = a ++ replaceAll (c :: w) new t := by
  induction a with
  | nil => rfl
  | cons d a ih =>
    simp only [List.mem_cons, not_or] at ha
    rw [List.cons_append, replaceAll_cons_of_not_isPrefix (by simp [ha.1]), ih ha.2,
      List.cons_append]

end

/-! ## Replacing where a word stands alone -/

section
variable {word : Text}

theorem isWordChar?_of_not {c : Char} (h : isWordChar c = false) :
    isWordChar? (some c) = isWordChar? none := h

theorem standsAlone_congr {b b' : Option Char} (h : isWordChar? b = isWordChar? b') (t : Text) :
    standsAlone word b t = standsAlone word b' t := by
  unfold standsAlone edge
  rw [h]

theorem prefix_of_standsAlone {b : Option Char} {t : Text} (h : standsAlone word b t = true) :
    word <+: t := by
  unfold standsAlone at h
  simp only [Bool.and_eq_true] at h
  exact List.isPrefixOf_iff_prefix.mp h.1.1

/-- A character that is no word character is as good as the end of the text. -/
theorem standsAlone_append_cons (h : word ≠ []) {c : Char} (hc : c ∉ word)
    (hw : isWordChar c = false) (b : Option Char) (a t : Text) :
    standsAlone word b (a ++ c :: t) = standsAlone word b a := by
  by_cases hp : word <+: a
  · obtain ⟨u, rfl⟩ := hp
    have hhead : isWordChar? (u ++ c :: t).head? = isWordChar? u.head? := by
      cases u with
      | nil => exact isWordChar?_of_not hw
      | cons d u => rfl
    have hpre (v : Text) : word.isPrefixOf (word ++ v) = true :=
      List.isPrefixOf_iff_prefix.mpr (List.prefix_append word v)
    obtain ⟨d, w, rfl⟩ := List.exists_cons_of_ne_nil h
    simp only [standsAlone, edge, List.append_assoc, hpre, List.drop_left, hhead]
    rfl
  · have hp' : ¬ word <+: a ++ c :: t := by rwa [prefix_append_cons_iff hc]
    rw [Bool.eq_false_iff.mpr fun hs => hp (prefix_of_standsAlone hs),
      Bool.eq_false_iff.mpr fun hs => hp' (prefix_of_standsAlone hs)]

theorem replaceWholeFrom_length_append (new p t : Text) (b : Option Char) :
    replaceWholeFrom word new p.length b (p ++ t) =
      replaceWholeFrom word new 0 (p.getLast?.or b) t := by
  induction p generalizing b with
  | nil => rfl
  | cons c p ih =>
    rw [List.cons_append, List.length_cons, replaceWholeFrom, ih]
    congr 1
    cases p with
    | nil => rfl
    | cons d p => simp [List.getLast?_cons]

theorem replaceWholeFrom_hit (h : word ≠ []) {b : Option Char} {t : Text}
    (hs : standsAlone word b (word ++ t) = true) (new : Text) :
    replaceWholeFrom word new 0 b (word ++ t) =
      new ++ replaceWholeFrom word new 0 word.getLast? t := by
  obtain ⟨c, w, rfl⟩ := List.exists_cons_of_ne_nil h
  rw [List.cons_append] at hs ⊢
  rw [replaceWholeFrom, if_pos hs, List.length_cons, Nat.add_sub_cancel,
    replaceWholeFrom_length_append]
  congr 2
  cases w with
  | nil => rfl
  | cons d w => simp [List.getLast?_cons]

theorem replaceWholeFrom_keep {b : Option Char} {c : Char} {t : Text}
    (hs : standsAlone word b (c :: t) = false) (new : Text) :
    replaceWholeFrom word new 0 b (c :: t) = c :: replaceWholeFrom word new 0 (some c) t := by
  rw [replaceWholeFrom, if_neg (by simp [hs])]

theorem replaceWholeFrom_congr {b b' : Option Char} (h : isWordChar? b = isWordChar? b')
    (new t : Text) : replaceWholeFrom word new 0 b t = replaceWholeFrom word new 0 b' t := by
  cases t with
  | nil => rfl
  | cons c t => rw [replaceWholeFrom, replaceWholeFrom, standsAlone_congr h]

/-- A text is read from the left with the character before it: behind the word where it stands
alone, else behind one character. -/
theorem standing_induction {P : Option Char → Text → Prop} (h : word ≠ []) (nil : ∀ b, P b [])
    (hit : ∀ b u, standsAlone word b (word ++ u) = true → P word.getLast? u → P b (word ++ u))
    (keep : ∀ b c u, standsAlone word b (c :: u) = false → P (some c) u → P b (c :: u))
    (b : Option Char) (t : Text) : P b t := by
  induction hn : t.length using Nat.strong_induction_on generalizing b t with
  | _ n ih =>
    subst hn
    cases t with
    | nil => exact nil b
    | cons c t =>
      cases hs : standsAlone word b (c :: t) with
      | true =>
        obtain ⟨u, hu⟩ := prefix_of_standsAlone hs
        have hlen := congrArg List.length hu
        have hpos := List.length_pos_iff.mpr h
        rw [List.length_append] at hlen
        rw [← hu] at hs ⊢
        exact hit b u hs (ih _ (by omega) _ u rfl)
      | false => exact keep b c t hs (ih _ (by simp) _ t rfl)

theorem replaceWhole_rewrites (h : word ≠ []) (new t : Text) :
    Rewrites word new t (replaceWhole word new t) := by
  unfold replaceWhole
  generalize (none : Option Char) = b
  induction b, t using standing_induction h with
  | nil b => exact .nil
  | hit b u hs ih => rw [replaceWholeFrom_hit h hs]; exact .hit ih
  | keep b c u hs ih => rw [replaceWholeFrom_keep hs]; exact .keep c ih

theorem replaceWholeFrom_append_cons (h : word ≠ []) {c : Char} (hc : c ∉ word)
    (hw : isWordChar c = false) (new t : Text) (b : Option Char) (a : Text) :
    replaceWholeFrom word new 0 b (a ++ c :: t) =
      replaceWholeFrom word new 0 b a ++ c :: replaceWholeFrom word new 0 none t := by
  induction b, a using standing_induction h with
  | nil b =>
    have hs : standsAlone word b ([] ++ c :: t) = false := by
      rw [standsAlone_append_cons h hc hw]
      exact Bool.eq_false_iff.mpr fun hs => h (List.prefix_nil.mp (prefix_of_standsAlone hs))
    rw [List.nil_append] at hs ⊢
    rw [replaceWholeFrom_keep hs, replaceWholeFrom_congr (isWordChar?_of_not hw)]
    rfl
  | hit b u hs ih =>
    have hs' : standsAlone word b (word ++ (u ++ c :: t)) = true := by
      rw [← List.append_assoc, standsAlone_append_cons h hc hw, hs]
    rw [List.append_assoc, replaceWholeFrom_hit h hs', replaceWholeFrom_hit h hs, ih,
      List.append_assoc]
  | keep b d u hs ih =>
    have hs' : standsAlone word b (d :: (u ++ c :: t)) = false := by
      rw [← List.cons_append, standsAlone_append_cons h hc hw, hs]
    rw [List.cons_append, replaceWholeFrom_keep hs', replaceWholeFrom_keep hs, ih, List.cons_append]

theorem replaceWhole_append_cons (h : word ≠ []) {c : Char} (hc : c ∉ word)
    (hw : isWordChar c = false) (new a t : Text) :
    replaceWhole word new (a ++ c :: t) = replaceWhole word new a ++ c :: replaceWhole word new t :=
  replaceWholeFrom_append_cons h hc hw new t none a

end

end ThaiScript.Text
