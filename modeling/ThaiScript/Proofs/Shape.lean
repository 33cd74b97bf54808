import ThaiScript.Proofs.Lexicon

/-!
# The shape of a text

`shape keep t` holds the characters of `t` that are kept, and `none` for each stretch of others,
however long. Replacing a word by another text changes no shape as long as neither of the two is
empty or holds a character that is kept; so the lexicon changes no shape of neutral characters.
-/

namespace ThaiScript.Text

/-- Puts a mark in front of a shape. Stretches that meet become one. -/
def push : Option Char → List (Option Char) → List (Option Char)
  | none, none :: s => none :: s
  | x, s => x :: s

/-- What a character is in a shape. -/
def mark (keep : Char → Bool) (c : Char) : Option Char := if keep c then some c else none

/-- The characters that are kept, and `none` for each stretch between them. -/
def shape (keep : Char → Bool) (t : Text) : List (Option Char) :=
  t.foldr (fun c s => push (mark keep c) s) []

theorem push_none_push_none (s : List (Option Char)) : push none (push none s) = push none s := by
  cases s with
  | nil => rfl
  | cons x s => cases x <;> rfl

theorem push_none (s : List (Option Char)) : ∃ r, push none s = none :: r := by
  rcases s with _ | ⟨_ | c, s⟩
  · exact ⟨[], rfl⟩
  · exact ⟨s, rfl⟩
  · exact ⟨some c :: s, rfl⟩

theorem push_some (c : Char) (s : List (Option Char)) : push (some c) s = some c :: s := by
  cases s <;> rfl

section
variable {keep : Char → Bool}

theorem mark_of_keep {c : Char} (h : keep c = true) : mark keep c = some c := if_pos h

theorem mark_of_not_keep {c : Char} (h : keep c = false) : mark keep c = none :=
  if_neg (by simp [h])

@[simp] theorem shape_nil : shape keep [] = [] := rfl

theorem shape_cons (c : Char) (t : Text) :
    shape keep (c :: t) = push (mark keep c) (shape keep t) := rfl

theorem shape_cons_of_keep {c : Char} (h : keep c = true) (t : Text) :
    shape keep (c :: t) = some c :: shape keep t := by
  rw [shape_cons, mark_of_keep h, push_some]

theorem shape_cons_of_not_keep {c : Char} (h : keep c = false) (t : Text) :
    shape keep (c :: t) = push none (shape keep t) := by
  rw [shape_cons, mark_of_not_keep h]

theorem foldr_push (x : Option Char) (s r : List (Option Char)) :
    (push x s).foldr push r = push x (s.foldr push r) := by
  cases x with
  | some c => rw [push_some]; rfl
  | none =>
    rcases s with _ | ⟨_ | c, s⟩
    · rfl
    · exact (push_none_push_none _).symm
    · rfl

theorem shape_append (a t : Text) :
    shape keep (a ++ t) = (shape keep a).foldr push (shape keep t) := by
  induction a with
  | nil => rfl
  | cons c a ih => rw [List.cons_append, shape_cons, ih, shape_cons, foldr_push]

theorem shape_append_congr {a b t u : Text} (h1 : shape keep a = shape keep b)
    (h2 : shape keep t = shape keep u) : shape keep (a ++ t) = shape keep (b ++ u) := by
  rw [shape_append, shape_append, h1, h2]

/-- A stretch is as good as any other. -/
theorem shape_stretch_append {p : Text} (hp : p ≠ []) (h : ∀ c ∈ p, keep c = false) (t : Text) :
    shape keep (p ++ t) = push none (shape keep t) := by
  induction p with
  | nil => exact (hp rfl).elim
  | cons c p ih =>
    rw [List.cons_append, shape_cons_of_not_keep (h c List.mem_cons_self)]
    cases p with
    | nil => rfl
    | cons d p =>
      rw [ih (List.cons_ne_nil d p) fun e he => h e (List.mem_cons_of_mem c he),
        push_none_push_none]

/-- A kept character stands in the shape with the shape of what follows behind it. -/
theorem shape_append_cons {c : Char} (h : keep c = true) (a t : Text) :
    ∃ s, shape keep (a ++ c :: t) = s ++ some c :: shape keep t := by
  induction a with
  | nil => exact ⟨[], shape_cons_of_keep h t⟩
  | cons d a ih =>
    obtain ⟨s, hs⟩ := ih
    rw [List.cons_append, shape_cons, hs]
    cases hd : mark keep d with
    | some e => exact ⟨some e :: s, by rw [push_some]; rfl⟩
    | none =>
      rcases s with _ | ⟨_ | e, s⟩
      · exact ⟨[none], rfl⟩
      · exact ⟨none :: s, rfl⟩
      · exact ⟨none :: some e :: s, rfl⟩

/-- A kept character of a shape stands in the text, and what follows has the shape behind it. -/
theorem exists_of_shape_eq {c : Char} {t : Text} {s r : List (Option Char)}
    (h : shape keep t = s ++ some c :: r) : ∃ a b, t = a ++ c :: b ∧ shape keep b = r := by
  induction t generalizing s with
  | nil => simp at h
  | cons d t ih =>
    cases hd : keep d with
    | true =>
      rw [shape_cons_of_keep hd] at h
      cases s with
      | nil =>
        simp only [List.nil_append, List.cons.injEq, Option.some.injEq] at h
        obtain ⟨rfl, h⟩ := h
        exact ⟨[], t, rfl, h⟩
      | cons x s =>
        simp only [List.cons_append, List.cons.injEq] at h
        obtain ⟨a, b, rfl, hb⟩ := ih h.2
        exact ⟨d :: a, b, rfl, hb⟩
    | false =>
      rw [shape_cons_of_not_keep hd] at h
      -- the stretch that `d` begins may go on in `t`
      have htail : ∃ s', shape keep t = s' ++ some c :: r := by
        rcases ht : shape keep t with _ | ⟨_ | e, r'⟩
        · rw [ht] at h
          rcases s with _ | ⟨x, s⟩ <;> simp [push] at h
        · rw [ht] at h
          exact ⟨s, h⟩
        · rw [ht] at h
          cases s with
          | nil => simp [push] at h
          | cons x s => exact ⟨s, (List.cons.inj h).2⟩
      obtain ⟨s', hs'⟩ := htail
      obtain ⟨a, b, rfl, hb⟩ := ih hs'
      exact ⟨d :: a, b, rfl, hb⟩

theorem Rewrites.shape_eq {word new t u : Text} (h : Rewrites word new t u) (hword : word ≠ [])
    (hnew : new ≠ []) (hw : ∀ c ∈ word, keep c = false) (hn : ∀ c ∈ new, keep c = false) :
    shape keep u = shape keep t := by
  induction h with
  | nil => rfl
  | hit _ ih => rw [shape_stretch_append hnew hn, shape_stretch_append hword hw, ih]
  | keep c _ ih => rw [shape_cons, shape_cons, ih]

end

end ThaiScript.Text

namespace ThaiScript

open Lexicon

theorem shape_applyLexicon {keep : Char → Bool} (hkeep : ∀ c, keep c = true → Neutral c)
    (t : Text) : Text.shape keep (applyLexicon t) = Text.shape keep t := by
  refine applyLexicon_invariant (f := Text.shape keep) ?_ t
  rintro t u ⟨e, he, hr⟩
  have hword : ∀ c ∈ e.1, keep c = false := fun c hc =>
    Bool.eq_false_iff.mpr fun hk => he.not_mem_word (hkeep c hk).1 hc
  have hnew : ∀ c ∈ e.2, keep c = false := fun c hc =>
    Bool.eq_false_iff.mpr fun hk => he.not_mem_new (hkeep c hk) hc
  exact hr.shape_eq he.1 he.2.1 hword hnew

end ThaiScript
