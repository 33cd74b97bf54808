import ThaiScript.Literal
import ThaiScript.Proofs.Shape

/-!
# Where literals open and close

Quotes and backslashes are the marks of a text. Whether a stretch that ends with a closing quote
begins at a place depends on the shape of the marks alone, `closingAt_isSome`, and where it ends on
what it reads alone, `closingAt_append`. Both hold of literals as well: a literal opens in two texts
of one shape or in none of them, and a literal stays one when another text of the same shape
follows.
-/

namespace ThaiScript

open Text

/-- The characters that decide where literals open and close. -/
def isMark (c : Char) : Bool := c = '"' || c = '\'' || c = '\\'

/-- Closing quotes: marks, and at least one. -/
def Closing (closing : Text) : Prop := closing ≠ [] ∧ ∀ c ∈ closing, isMark c = true

theorem isMark_of_quote {q : Char} (h : q = '"' ∨ q = '\'') : isMark q = true := by
  rcases h with rfl | rfl <;> rfl

theorem closing_single {q : Char} (h : q = '"' ∨ q = '\'') : Closing [q] :=
  ⟨by simp, by simpa using isMark_of_quote h⟩

theorem closing_triple {q : Char} (h : q = '"' ∨ q = '\'') : Closing [q, q, q] :=
  ⟨by simp, by simpa using isMark_of_quote h⟩

/-! ## Closing quotes -/

/-- Whether a closing quote stands unescaped in a shape; `escaped` tells that a backslash stands
before it. -/
def closes (closing : Text) : (escaped : Bool) → List (Option Char) → Bool
  | _, [] => false
  | true, _ :: s => closes closing false s
  | false, x :: s =>
    if (closing.map some).isPrefixOf (x :: s) then true else closes closing (x == some '\\') s

section
variable {closing : Text}

theorem isPrefixOf_shape (h : ∀ c ∈ closing, isMark c = true) (t : Text) :
    (closing.map some).isPrefixOf (shape isMark t) = closing.isPrefixOf t := by
  induction closing generalizing t with
  | nil => simp
  | cons c closing ih =>
    have hc := h c List.mem_cons_self
    cases t with
    | nil => rfl
    | cons d t =>
      cases hd : isMark d with
      | true =>
        rw [shape_cons_of_keep hd, List.map_cons, List.isPrefixOf_cons_cons,
          List.isPrefixOf_cons_cons, ih fun e he => h e (List.mem_cons_of_mem c he)]
        rfl
      | false =>
        obtain ⟨r, hr⟩ := push_none (shape isMark t)
        have hne : (c == d) = false := by
          refine beq_eq_false_iff_ne.mpr fun he => ?_
          rw [he, hd] at hc
          cases hc
        rw [shape_cons_of_not_keep hd, hr, List.map_cons, List.isPrefixOf_cons_cons,
          List.isPrefixOf_cons_cons, hne]
        rfl

theorem closes_none_cons (h : Closing closing) (s : List (Option Char)) :
    closes closing false (none :: s) = closes closing false s := by
  obtain ⟨c, w, rfl⟩ := List.exists_cons_of_ne_nil h.1
  rw [closes, if_neg (by simp)]
  rfl

theorem closes_push_none (h : Closing closing) (s : List (Option Char)) :
    closes closing false (push none s) = closes closing false s := by
  rcases s with _ | ⟨_ | c, s⟩
  · exact closes_none_cons h []
  · rfl
  · exact closes_none_cons h _

/-- A backslash takes one mark or one character of a stretch; what is left of the stretch has no say
in what closes. -/
theorem closes_escaped (h : Closing closing) (d : Char) (t : Text) :
    closes closing true (shape isMark (d :: t)) = closes closing false (shape isMark t) := by
  cases hd : isMark d with
  | true => rw [shape_cons_of_keep hd, closes]
  | false =>
    rw [shape_cons_of_not_keep hd]
    rcases shape isMark t with _ | ⟨_ | c, s⟩
    · rfl
    · exact (closes_none_cons h s).symm
    · rfl

theorem closes_of_hit {x : Char} {t : Text} (h : ∀ c ∈ closing, isMark c = true)
    (hp : closing.isPrefixOf (x :: t) = true) :
    closes closing false (shape isMark (x :: t)) = true := by
  rw [← isPrefixOf_shape h] at hp
  cases hs : shape isMark (x :: t) with
  | nil =>
    rw [shape_cons] at hs
    cases hm : mark isMark x <;> rw [hm] at hs
    · obtain ⟨r, hr⟩ := push_none (shape isMark t)
      rw [hr] at hs
      cases hs
    · rw [push_some] at hs
      cases hs
  | cons y s =>
    rw [hs] at hp
    rw [closes, if_pos hp]

theorem closes_of_miss {x : Char} {t : Text} (h : Closing closing)
    (hp : ¬ closing.isPrefixOf (x :: t) = true) :
    closes closing false (shape isMark (x :: t)) =
      closes closing (x == '\\') (shape isMark t) := by
  cases hx : isMark x with
  | true =>
    rw [← isPrefixOf_shape h.2, shape_cons_of_keep hx] at hp
    rw [shape_cons_of_keep hx, closes, if_neg hp]
    rfl
  | false =>
    have hne : (x == '\\') = false := by
      refine beq_eq_false_iff_ne.mpr fun he => ?_
      rw [he] at hx
      cases hx
    rw [shape_cons_of_not_keep hx, closes_push_none h, hne]

theorem closingAt_hit (hne : closing ≠ []) (t : Text) :
    closingAt closing (closing ++ t) = some closing.length := by
  obtain ⟨c, w, rfl⟩ := List.exists_cons_of_ne_nil hne
  unfold closingAt
  exact if_pos (List.isPrefixOf_iff_prefix.mpr (List.prefix_append (c :: w) t))

theorem closingAt_escape {d : Char} {t : Text} (hp : ¬ closing.isPrefixOf ('\\' :: d :: t) = true) :
    closingAt closing ('\\' :: d :: t) = (closingAt closing t).map (· + 2) := by
  rw [closingAt, if_neg hp, if_pos rfl]

theorem closingAt_cons {c : Char} {t : Text} (hp : ¬ closing.isPrefixOf (c :: t) = true)
    (hc : c ≠ '\\') : closingAt closing (c :: t) = (closingAt closing t).map (· + 1) := by
  conv_lhs => unfold closingAt
  exact (if_neg hp).trans (if_neg hc)

/-- Whether an attempt to close succeeds depends on the shape of what it reads alone. -/
theorem closingAt_isSome (h : Closing closing) (t : Text) :
    (closingAt closing t).isSome = closes closing false (shape isMark t) := by
  fun_induction closingAt closing t with
  | case1 => rfl
  | case2 c t hp => exact (closes_of_hit h.2 hp).symm
  | case3 hp => rw [closes_of_miss h hp]; rfl
  | case4 d t hp ih =>
    rw [Option.isSome_map, ih, closes_of_miss h hp]
    exact (closes_escaped h d t).symm
  | case5 c t hp hc ih =>
    rw [Option.isSome_map, ih, closes_of_miss h hp, beq_eq_false_iff_ne.mpr hc]

theorem closingAt_isSome_congr (h : Closing closing) {t u : Text}
    (htu : shape isMark t = shape isMark u) :
    (closingAt closing t).isSome = (closingAt closing u).isSome := by
  rw [closingAt_isSome h, closingAt_isSome h, htu]

theorem length_le_of_closingAt {t : Text} {n : Nat} (h : closingAt closing t = some n) :
    closing.length ≤ n ∧ n ≤ t.length := by
  fun_induction closingAt closing t generalizing n with
  | case1 => cases h
  | case2 c t hp =>
    cases h
    exact ⟨Nat.le_refl _, (List.isPrefixOf_iff_prefix.mp hp).length_le⟩
  | case3 => cases h
  | case4 d t hp ih =>
    obtain ⟨m, hm, rfl⟩ := Option.map_eq_some_iff.mp h
    have := ih hm
    simp only [List.length_cons]
    omega
  | case5 c t hp hc ih =>
    obtain ⟨m, hm, rfl⟩ := Option.map_eq_some_iff.mp h
    have := ih hm
    simp only [List.length_cons]
    omega

theorem not_isPrefixOf_append {a t : Text} (hlen : closing.length ≤ a.length)
    (h : ¬ closing.isPrefixOf (a ++ t) = true) (u : Text) :
    ¬ closing.isPrefixOf (a ++ u) = true := by
  rw [List.isPrefixOf_iff_prefix] at h ⊢
  intro hu
  have ha : closing <+: a := List.prefix_of_prefix_length_le hu (List.prefix_append a u) hlen
  exact h (ha.trans (List.prefix_append a t))

/-- What closes at the end of `a` closes there whatever follows. -/
theorem closingAt_append (hne : closing ≠ []) {a t : Text}
    (h : closingAt closing (a ++ t) = some a.length) (u : Text) :
    closingAt closing (a ++ u) = some a.length := by
  have hpos := List.length_pos_iff.mpr hne
  generalize hw : a ++ t = w at h
  fun_induction closingAt closing w generalizing a with
  | case1 => cases h
  | case2 c w hp =>
    rw [← hw, List.isPrefixOf_iff_prefix] at hp
    have hlen : closing.length = a.length := Option.some.inj h
    have ha : closing <+: a :=
      List.prefix_of_prefix_length_le hp (List.prefix_append a t) (Nat.le_of_eq hlen)
    obtain rfl := ha.eq_of_length hlen
    exact closingAt_hit hne u
  | case3 => cases h
  | case4 d w hp ih =>
    obtain ⟨m, hm, hlen⟩ := Option.map_eq_some_iff.mp h
    obtain ⟨hle, _⟩ := length_le_of_closingAt hm
    rcases a with _ | ⟨x, _ | ⟨y, a⟩⟩
    · simp at hlen
    · simp at hlen
    · simp only [List.cons_append, List.cons.injEq] at hw
      obtain ⟨rfl, rfl, rfl⟩ := hw
      simp only [List.length_cons] at hlen
      have hp' : ¬ closing.isPrefixOf ('\\' :: y :: a ++ u) = true :=
        not_isPrefixOf_append (by simp only [List.length_cons]; omega) hp u
      have ha := ih rfl (by rw [hm]; congr 1; omega)
      rw [List.cons_append, List.cons_append] at hp' ⊢
      rw [closingAt_escape hp', ha]
      rfl
  | case5 c w hp hc ih =>
    obtain ⟨m, hm, hlen⟩ := Option.map_eq_some_iff.mp h
    obtain ⟨hle, _⟩ := length_le_of_closingAt hm
    cases a with
    | nil => simp at hlen
    | cons x a =>
      simp only [List.cons_append, List.cons.injEq] at hw
      obtain ⟨rfl, rfl⟩ := hw
      simp only [List.length_cons] at hlen
      have hp' : ¬ closing.isPrefixOf (x :: a ++ u) = true :=
        not_isPrefixOf_append (by simp only [List.length_cons]; omega) hp u
      have ha := ih rfl (by rw [hm]; congr 1; omega)
      rw [List.cons_append] at hp' ⊢
      rw [closingAt_cons hp' hc, ha]
      rfl

end

/-! ## Literals -/

/-- The length of the literal with three quotes that `q` opens before `t`. -/
def tripleLength? (q : Char) (t : Text) : Option Nat :=
  if [q, q].isPrefixOf t then (closingAt [q, q, q] (t.drop 2)).map (· + 3) else none

theorem literalLength?_of_not_quote {c : Char} (h : ¬ (c = '"' ∨ c = '\'')) (t : Text) :
    literalLength? (c :: t) = none := if_neg h

section
variable {q : Char} (hq : q = '"' ∨ q = '\'')
include hq

theorem literalLength?_quote (t : Text) :
    literalLength? (q :: t) = (tripleLength? q t).or ((closingAt [q] t).map (· + 1)) :=
  (if_pos hq).trans Option.orElse_eq_or

theorem tripleLength?_isSome_congr {t u : Text} (h : shape isMark t = shape isMark u) :
    (tripleLength? q t).isSome = (tripleLength? q u).isSome := by
  have hm := isMark_of_quote hq
  have hqq : ∀ c ∈ [q, q], isMark c = true := by simpa using hm
  have hpre : [q, q].isPrefixOf t = [q, q].isPrefixOf u := by
    rw [← isPrefixOf_shape hqq, ← isPrefixOf_shape hqq, h]
  unfold tripleLength?
  rw [hpre]
  split
  · next hu =>
    rw [hu] at hpre
    obtain ⟨t, rfl⟩ := List.isPrefixOf_iff_prefix.mp hpre
    obtain ⟨u, rfl⟩ := List.isPrefixOf_iff_prefix.mp hu
    simp only [List.cons_append, List.nil_append, shape_cons_of_keep hm, List.cons.injEq,
      true_and] at h
    rw [Option.isSome_map, Option.isSome_map]
    exact closingAt_isSome_congr (closing_triple hq) h
  · rfl

theorem tripleLength?_append {a t : Text} (h : tripleLength? q (a ++ t) = some (a.length + 1))
    (u : Text) : tripleLength? q (a ++ u) = some (a.length + 1) := by
  unfold tripleLength? at h ⊢
  split at h
  · next hp =>
    obtain ⟨m, hm, hlen⟩ := Option.map_eq_some_iff.mp h
    rcases a with _ | ⟨x, _ | ⟨y, a⟩⟩
    · simp at hlen
    · simp at hlen
    · simp only [List.length_cons, Nat.add_right_cancel_iff] at hlen
      subst hlen
      have hp' : [q, q].isPrefixOf (x :: y :: a ++ u) = true := by
        simpa [List.isPrefixOf_iff_prefix] using hp
      have hclose := closingAt_append (closing_triple hq).1 (a := a) (t := t) hm u
      rw [if_pos hp']
      simp only [List.cons_append, List.drop_succ_cons, List.drop_zero, hclose]
      rfl
  · cases h

theorem literalLength?_isSome_congr {t u : Text} (h : shape isMark t = shape isMark u) :
    (literalLength? (q :: t)).isSome = (literalLength? (q :: u)).isSome := by
  rw [literalLength?_quote hq, literalLength?_quote hq, Option.isSome_or, Option.isSome_or,
    Option.isSome_map, Option.isSome_map, tripleLength?_isSome_congr hq h,
    closingAt_isSome_congr (closing_single hq) h]

end

theorem quote_of_literalLength? {c : Char} {t : Text} {n : Nat}
    (h : literalLength? (c :: t) = some n) : c = '"' ∨ c = '\'' := by
  by_contra hc
  rw [literalLength?_of_not_quote hc] at h
  cases h

/-- A literal holds at least its two quotes. -/
theorem literalLength?_bounds {t : Text} {n : Nat} (h : literalLength? t = some n) :
    2 ≤ n ∧ n ≤ t.length := by
  cases t with
  | nil => cases h
  | cons q t =>
    have hq := quote_of_literalLength? h
    rw [literalLength?_quote hq, Option.or_eq_some_iff] at h
    rcases h with h | ⟨_, h⟩
    · unfold tripleLength? at h
      split at h
      · obtain ⟨m, hm, rfl⟩ := Option.map_eq_some_iff.mp h
        have hle := length_le_of_closingAt hm
        simp only [List.length_cons, List.length_drop, List.length_nil] at hle ⊢
        omega
      · cases h
    · obtain ⟨m, hm, rfl⟩ := Option.map_eq_some_iff.mp h
      have hle := length_le_of_closingAt hm
      simp only [List.length_cons, List.length_nil] at hle ⊢
      omega

/-- A literal stays one when another text of the same shape follows. -/
theorem literalLength?_append {a t u : Text} (h : literalLength? (a ++ t) = some a.length)
    (hs : shape isMark t = shape isMark u) : literalLength? (a ++ u) = some a.length := by
  cases a with
  | nil =>
    have hb := literalLength?_bounds h
    simp at hb
  | cons q a =>
    rw [List.cons_append] at h ⊢
    have hq := quote_of_literalLength? h
    rw [literalLength?_quote hq, Option.or_eq_some_iff, List.length_cons] at h
    rw [literalLength?_quote hq, Option.or_eq_some_iff, List.length_cons]
    rcases h with h | ⟨hnone, h⟩
    · exact .inl (tripleLength?_append hq h u)
    · right
      obtain ⟨m, hm, hlen⟩ := Option.map_eq_some_iff.mp h
      obtain rfl := Nat.add_right_cancel hlen
      have hau : shape isMark (a ++ t) = shape isMark (a ++ u) := shape_append_congr rfl hs
      have hnone' := tripleLength?_isSome_congr hq hau
      rw [hnone, Option.isSome_none] at hnone'
      rw [closingAt_append (closing_single hq).1 hm u]
      exact ⟨Option.isNone_iff_eq_none.mp (Option.isSome_eq_false_iff.mp hnone'.symm), rfl⟩

end ThaiScript
