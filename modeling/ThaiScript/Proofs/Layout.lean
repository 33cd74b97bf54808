import ThaiScript.Proofs.Literal

/-!
# The layout of a text

A layout is proper when its literals are those that the scan finds in its text: each of them is read
whole where it stands, and none opens in a gap. `of_toText` and `proper_of` say that the proper
layouts are those of texts. A change of the gaps that keeps their shape keeps a layout proper, so
the literals of the changed text are the old ones: `of_mapGaps`.
-/

namespace ThaiScript.Layout

open Text

/-! ## The scan -/

theorem scan_length_append (p t : Text) : scan p.length (p ++ t) = scan 0 t := by
  induction p with
  | nil => rfl
  | cons c p ih => exact ih

theorem of_literal {a t : Text} (h : literalLength? (a ++ t) = some a.length) :
    of (a ++ t) = (of t).consLiteral a := by
  cases a with
  | nil =>
    have hb := literalLength?_bounds h
    simp at hb
  | cons c a =>
    rw [List.cons_append] at h
    simp only [of, List.cons_append, scan, h, List.length_cons, Nat.add_sub_cancel,
      scan_length_append]
    simp

theorem of_cons {c : Char} {t : Text} (h : literalLength? (c :: t) = none) :
    of (c :: t) = (of t).cons c := by
  simp only [of, scan, h]

/-- A text is read from the left: behind a literal where one opens, else behind one character. -/
theorem scan_induction {P : Text → Prop} (nil : P [])
    (literal : ∀ a t, literalLength? (a ++ t) = some a.length → P t → P (a ++ t))
    (gap : ∀ c t, literalLength? (c :: t) = none → P t → P (c :: t)) (t : Text) : P t := by
  induction hn : t.length using Nat.strong_induction_on generalizing t with
  | _ n ih =>
    subst hn
    cases t with
    | nil => exact nil
    | cons c t =>
      cases h : literalLength? (c :: t) with
      | none => exact gap c t h (ih _ (by simp) t rfl)
      | some n =>
        obtain ⟨hpos, hle⟩ := literalLength?_bounds h
        have hlen : ((c :: t).take n).length = n := List.length_take_of_le hle
        have hcut := List.take_append_drop n (c :: t)
        rw [← hcut]
        refine literal _ _ ?_ (ih _ ?_ _ rfl)
        · rw [hcut, h, hlen]
        · rw [List.length_drop]
          simp only [List.length_cons]
          omega

/-! ## The text of a layout -/

/-- The text of literals, each with the gap behind it. -/
def restText (rest : List (Text × Text)) : Text := rest.flatMap fun (literal, gap) => literal ++ gap

theorem toText_eq (l : Layout) : l.toText = l.first ++ restText l.rest := rfl

@[simp] theorem restText_cons (a g : Text) (rest : List (Text × Text)) :
    restText ((a, g) :: rest) = a ++ (g ++ restText rest) := by
  simp [restText]

theorem toText_cons (c : Char) (l : Layout) : (l.cons c).toText = c :: l.toText := rfl

theorem toText_consLiteral (a : Text) (l : Layout) : (l.consLiteral a).toText = a ++ l.toText := by
  rw [toText_eq, consLiteral, restText_cons, toText_eq, List.nil_append]

theorem toText_of (t : Text) : (of t).toText = t := by
  induction t using scan_induction with
  | nil => rfl
  | literal a t h ih => rw [of_literal h, toText_consLiteral, ih]
  | gap c t h ih => rw [of_cons h, toText_cons, ih]

theorem mem_restText_iff {c : Char} {rest : List (Text × Text)} :
    c ∈ restText rest ↔ ∃ e ∈ rest, c ∈ e.1 ∨ c ∈ e.2 := by
  simp [restText, List.mem_flatMap]

theorem mem_toText_iff {c : Char} {l : Layout} :
    c ∈ l.toText ↔ c ∈ l.first ∨ ∃ e ∈ l.rest, c ∈ e.1 ∨ c ∈ e.2 := by
  rw [toText_eq, List.mem_append, mem_restText_iff]

theorem not_mem_toText_iff {c : Char} {l : Layout} :
    c ∉ l.toText ↔ c ∉ l.first ∧ ∀ e ∈ l.rest, c ∉ e.1 ∧ c ∉ e.2 := by
  rw [mem_toText_iff]
  simp only [not_or, not_exists, not_and]

/-- What a text does not hold is in none of its gaps and literals. -/
theorem not_mem_of {t : Text} {c : Char} (h : c ∉ t) :
    c ∉ (of t).first ∧ ∀ e ∈ (of t).rest, c ∉ e.1 ∧ c ∉ e.2 := by
  rw [← toText_of t] at h
  exact not_mem_toText_iff.mp h

/-- Changes the gaps and leaves the literals. -/
def mapGaps (f : Text → Text) (l : Layout) : Layout :=
  ⟨f l.first, l.rest.map fun (literal, gap) => (literal, f gap)⟩

@[simp] theorem mapGaps_first (f : Text → Text) (l : Layout) :
    (l.mapGaps f).first = f l.first := rfl

@[simp] theorem mapGaps_rest (f : Text → Text) (l : Layout) :
    (l.mapGaps f).rest = l.rest.map fun (literal, gap) => (literal, f gap) := rfl

theorem literals_mapGaps (f : Text → Text) (l : Layout) : (l.mapGaps f).literals = l.literals := by
  simp [literals, mapGaps]

theorem mem_toText_mapGaps_iff {c : Char} {f : Text → Text} (hf : ∀ g, c ∈ f g ↔ c ∈ g)
    (l : Layout) : c ∈ (l.mapGaps f).toText ↔ c ∈ l.toText := by
  simp [mem_toText_iff, mapGaps, hf]

/-! ## Proper layouts -/

/-- No literal opens in `g` when `t` follows. -/
def Quiet (g t : Text) : Prop := ∀ a c b, g = a ++ c :: b → literalLength? (c :: b ++ t) = none

/-- Each literal is read whole where it stands, and none opens in a gap. -/
def ProperRest : List (Text × Text) → Prop
  | [] => True
  | (a, g) :: rest =>
    literalLength? (a ++ (g ++ restText rest)) = some a.length ∧ Quiet g (restText rest) ∧
      ProperRest rest

def Proper (l : Layout) : Prop := Quiet l.first (restText l.rest) ∧ ProperRest l.rest

theorem quiet_nil (t : Text) : Quiet [] t := by
  intro a c b h
  simp at h

theorem quiet_cons {c : Char} {g t : Text} (hc : literalLength? (c :: g ++ t) = none)
    (h : Quiet g t) : Quiet (c :: g) t := by
  intro a d b hg
  cases a with
  | nil =>
    obtain ⟨rfl, rfl⟩ := List.cons.inj hg
    exact hc
  | cons e a => exact h a d b (List.cons.inj hg).2

theorem proper_of (t : Text) : (of t).Proper := by
  induction t using scan_induction with
  | nil => exact ⟨quiet_nil _, trivial⟩
  | literal a t h ih =>
    rw [of_literal h]
    refine ⟨quiet_nil _, ?_, ih.1, ih.2⟩
    rw [← toText_eq, toText_of, h]
  | gap c t h ih =>
    rw [of_cons h]
    refine ⟨quiet_cons ?_ ih.1, ih.2⟩
    rw [List.cons_append, cons, ← toText_eq, toText_of, h]

theorem ProperRest.ne_nil {rest : List (Text × Text)} (h : ProperRest rest) :
    ∀ e ∈ rest, e.1 ≠ [] := by
  induction rest with
  | nil => exact fun e he => by cases he
  | cons e rest ih =>
    obtain ⟨ha, _, hrest⟩ := h
    refine List.forall_mem_cons.mpr ⟨fun he => ?_, ih hrest⟩
    have hb := (literalLength?_bounds ha).1
    rw [he] at hb
    simp at hb

theorem ne_nil_of_mem_rest {t : Text} : ∀ e ∈ (of t).rest, e.1 ≠ [] := (proper_of t).2.ne_nil

theorem of_append_of_quiet {g t : Text} (h : Quiet g t) :
    of (g ++ t) = ⟨g ++ (of t).first, (of t).rest⟩ := by
  induction g with
  | nil => rfl
  | cons c g ih =>
    have hc : literalLength? (c :: (g ++ t)) = none := h [] c g rfl
    have hg : Quiet g t := fun a d b hg => h (c :: a) d b (by rw [hg]; rfl)
    rw [List.cons_append, of_cons hc, ih hg]
    rfl

theorem of_restText {rest : List (Text × Text)} (h : ProperRest rest) :
    of (restText rest) = ⟨[], rest⟩ := by
  induction rest with
  | nil => rfl
  | cons e rest ih =>
    obtain ⟨a, g⟩ := e
    obtain ⟨ha, hg, hrest⟩ := h
    rw [restText_cons, of_literal ha, of_append_of_quiet hg, ih hrest]
    simp [consLiteral]

theorem of_toText {l : Layout} (h : l.Proper) : of l.toText = l := by
  rw [toText_eq, of_append_of_quiet h.1, of_restText h.2]
  simp

/-! ## Gaps that keep their shape -/

theorem Quiet.congr {g g' t u : Text} (h : Quiet g t) (hg : shape isMark g' = shape isMark g)
    (hu : shape isMark u = shape isMark t) : Quiet g' u := by
  rintro a c b rfl
  by_cases hq : c = '"' ∨ c = '\''
  · obtain ⟨s, hs⟩ := shape_append_cons (isMark_of_quote hq) a b
    obtain ⟨a', b', rfl, hb⟩ := exists_of_shape_eq (hg.symm.trans hs)
    have hbu : shape isMark (b ++ u) = shape isMark (b' ++ t) := shape_append_congr hb.symm hu
    have hsome := literalLength?_isSome_congr hq hbu
    rw [← List.cons_append, ← List.cons_append, h a' c b' rfl, Option.isSome_none] at hsome
    exact Option.isNone_iff_eq_none.mp (Option.isSome_eq_false_iff.mp hsome)
  · exact literalLength?_of_not_quote hq _

section
variable {keep : Char → Bool} {f : Text → Text} (hf : ∀ g, shape keep (f g) = shape keep g)
include hf

theorem shape_restText_map (rest : List (Text × Text)) :
    shape keep (restText (rest.map fun (literal, gap) => (literal, f gap))) =
      shape keep (restText rest) := by
  induction rest with
  | nil => rfl
  | cons e rest ih =>
    rw [List.map_cons, restText_cons, restText_cons]
    exact shape_append_congr rfl (shape_append_congr (hf e.2) ih)

theorem shape_mapGaps (l : Layout) : shape keep (l.mapGaps f).toText = shape keep l.toText :=
  shape_append_congr (hf l.first) (shape_restText_map hf l.rest)

end

section
variable {f : Text → Text} (hf : ∀ g, shape isMark (f g) = shape isMark g)
include hf

theorem ProperRest.map {rest : List (Text × Text)} (h : ProperRest rest) :
    ProperRest (rest.map fun (literal, gap) => (literal, f gap)) := by
  induction rest with
  | nil => trivial
  | cons e rest ih =>
    obtain ⟨a, g⟩ := e
    obtain ⟨ha, hg, hrest⟩ := h
    have hs := shape_restText_map hf rest
    refine ⟨?_, hg.congr (hf g) hs, ih hrest⟩
    exact literalLength?_append ha (shape_append_congr (hf g) hs).symm

theorem Proper.mapGaps {l : Layout} (h : l.Proper) : (l.mapGaps f).Proper :=
  ⟨h.1.congr (hf l.first) (shape_restText_map hf l.rest), h.2.map hf⟩

/-- The literals of a text are those it has after its gaps were changed. -/
theorem of_mapGaps (t : Text) : of ((of t).mapGaps f).toText = (of t).mapGaps f :=
  of_toText ((proper_of t).mapGaps hf)

end

end ThaiScript.Layout
