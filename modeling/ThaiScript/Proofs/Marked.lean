import ThaiScript.Proofs.Substitution

/-!
# Marked texts

A layout says of each character of its text whether a literal holds it. `Layout.marked` writes that
down beside the character, so that a part of the text, such as one string of a program, knows which
stretches of it are exposed to the lexicon. `mapExposed` changes those and nothing else. A neutral
character cuts a stretch like the edge of a literal does, `mapExposed_append_of_cut`.
-/

namespace ThaiScript

open Lexicon

/-- What becomes of a text is decided between neutral characters. -/
structure Piecewise (f : Text → Text) : Prop where
  eq_nil_iff : ∀ t, f t = [] ↔ t = []
  mem_iff : ∀ {c}, Neutral c → ∀ t, c ∈ f t ↔ c ∈ t
  append_cons : ∀ {c}, Neutral c → ∀ a t, f (a ++ c :: t) = f a ++ c :: f t

theorem piecewise_applyLexicon : Piecewise applyLexicon :=
  ⟨applyLexicon_eq_nil_iff, mem_applyLexicon_iff, fun hc => applyLexicon_append_cons hc.1⟩

namespace Piecewise

variable {f : Text → Text} (hf : Piecewise f)
include hf

theorem map_nil : f [] = [] := (hf.eq_nil_iff []).mpr rfl

theorem map_cons {c : Char} (h : Neutral c) (t : Text) : f (c :: t) = c :: f t := by
  have hcut := hf.append_cons h [] t
  rwa [hf.map_nil, List.nil_append, List.nil_append] at hcut

end Piecewise

/-! ## Marks -/

/-- A text in which the characters of literals are marked. -/
abbrev Marked := List (Char × Bool)

namespace Marked

def flag (b : Bool) (t : Text) : Marked := t.map fun c => (c, b)

def text (s : Marked) : Text := s.map (·.1)

/-- The stretches without marks, with the marked characters between them. -/
def layout : Marked → Layout
  | [] => ⟨[], []⟩
  | (c, true) :: s => (layout s).consLiteral [c]
  | (c, false) :: s => (layout s).cons c

/-- The stretches of a marked text that no literal holds. -/
def exposed (s : Marked) : List Text := s.layout.gaps

end Marked

open Marked

/-- The text of a layout with the characters of its literals marked. -/
def Layout.marked (l : Layout) : Marked :=
  flag false l.first ++ l.rest.flatMap fun (literal, gap) => flag true literal ++ flag false gap

namespace Marked

/-- Changes the exposed stretches and leaves the marked ones. -/
def mapExposed (f : Text → Text) (s : Marked) : Marked := (s.layout.mapGaps f).marked

/-! ## Texts -/

theorem text_append (s t : Marked) : (s ++ t).text = s.text ++ t.text := List.map_append

theorem text_flag (b : Bool) (t : Text) : (flag b t).text = t := by
  simp [flag, text, Function.comp_def]

theorem text_marked (l : Layout) : l.marked.text = l.toText := by
  rw [Layout.marked, text_append, text_flag, Layout.toText_eq]
  congr 1
  induction l.rest with
  | nil => rfl
  | cons e rest ih =>
    rw [List.flatMap_cons, text_append, text_append, text_flag, text_flag, ih,
      Layout.restText_cons, List.append_assoc]

theorem toText_layout (s : Marked) : s.layout.toText = s.text := by
  induction s with
  | nil => rfl
  | cons x s ih =>
    obtain ⟨c, b⟩ := x
    cases b with
    | false => rw [layout, Layout.toText_cons, ih]; rfl
    | true => rw [layout, Layout.toText_consLiteral, ih]; rfl

theorem text_mapExposed (f : Text → Text) (s : Marked) :
    (s.mapExposed f).text = (s.layout.mapGaps f).toText := text_marked _

/-! ## Exposed stretches, from the left -/

theorem layout_flag_append (p : Text) (s : Marked) :
    (flag false p ++ s).layout = ⟨p ++ s.layout.first, s.layout.rest⟩ := by
  induction p with
  | nil => rfl
  | cons c p ih =>
    change Layout.cons c (flag false p ++ s).layout = _
    rw [ih]
    rfl

theorem marked_consLiteral (a : Text) (l : Layout) :
    (l.consLiteral a).marked = flag true a ++ l.marked := by
  simp [Layout.marked, Layout.consLiteral, flag]

/-- Behind a stretch: the text ends, a mark, or a neutral character. -/
def Cut (s : Marked) : Prop := ∀ x ∈ s.head?, x.2 = true ∨ Neutral x.1

theorem Cut.of_isPrefix {s t : Marked} (h : Cut t) (hst : s <+: t) : Cut s := by
  cases s with
  | nil => intro x hx; cases hx
  | cons y s =>
    obtain ⟨u, rfl⟩ := hst
    exact h

section
variable {f : Text → Text} (hf : Piecewise f)
include hf

theorem mapExposed_nil : mapExposed f [] = [] := by
  simp [mapExposed, layout, Layout.marked, flag, hf.map_nil]

theorem mapExposed_cons_of_marked (c : Char) (s : Marked) :
    mapExposed f ((c, true) :: s) = (c, true) :: mapExposed f s := by
  have h : (s.layout.consLiteral [c]).mapGaps f = (s.layout.mapGaps f).consLiteral [c] := by
    simp only [Layout.mapGaps, Layout.consLiteral, hf.map_nil, List.map_cons]
  rw [mapExposed, layout, h, marked_consLiteral]
  rfl

theorem mapExposed_cons_of_neutral {c : Char} (h : Neutral c) (s : Marked) :
    mapExposed f ((c, false) :: s) = (c, false) :: mapExposed f s := by
  rw [mapExposed, layout, Layout.marked, Layout.mapGaps_first, Layout.cons, hf.map_cons h]
  rfl

/-- A cut keeps the stretch before it from what stands behind. -/
theorem mapExposed_append_of_cut {s : Marked} (h : Cut s) (p : Text) :
    mapExposed f (flag false p ++ s) = flag false (f p) ++ mapExposed f s := by
  have hfirst : f (p ++ s.layout.first) = f p ++ f s.layout.first := by
    rcases s with _ | ⟨⟨c, _ | _⟩, s⟩
    · simp [layout, hf.map_nil]
    · have hc : Neutral c := by simpa using h (c, false) rfl
      rw [layout, Layout.cons, hf.append_cons hc, hf.map_cons hc]
    · simp [layout, Layout.consLiteral, hf.map_nil]
  rw [mapExposed, mapExposed, layout_flag_append, Layout.marked, Layout.marked,
    Layout.mapGaps_first, Layout.mapGaps_first, hfirst]
  simp [flag]

theorem mapExposed_flag_append (a : Text) (s : Marked) :
    mapExposed f (flag true a ++ s) = flag true a ++ mapExposed f s := by
  induction a with
  | nil => rfl
  | cons c a ih => exact (mapExposed_cons_of_marked hf c _).trans (congrArg _ ih)

/-- In the marked text of a layout the gaps are the exposed stretches. -/
theorem mapExposed_marked {l : Layout} (h : ∀ e ∈ l.rest, e.1 ≠ []) :
    mapExposed f l.marked = (l.mapGaps f).marked := by
  obtain ⟨first, rest⟩ := l
  unfold Layout.marked
  dsimp only [Layout.mapGaps] at h ⊢
  induction rest generalizing first with
  | nil =>
    rw [List.flatMap_nil, mapExposed_append_of_cut hf (fun x hx => by cases hx), mapExposed_nil hf]
    rfl
  | cons e rest ih =>
    obtain ⟨a, g⟩ := e
    have ha : a ≠ [] := h (a, g) List.mem_cons_self
    have hrest := ih g fun e he => h e (List.mem_cons_of_mem _ he)
    rw [List.map_cons, List.flatMap_cons, List.flatMap_cons, List.append_assoc (flag true a),
      List.append_assoc (flag true a), ← hrest, ← mapExposed_flag_append hf]
    refine mapExposed_append_of_cut hf ?_ first
    obtain ⟨c, a, rfl⟩ := List.exists_cons_of_ne_nil ha
    intro x hx
    cases hx
    exact .inl rfl

end

end Marked

/-! ## Texts that stay -/

section
variable {f : Text → Text} {p : Char → Bool} (hf : ∀ g, f g = g ∨ (f g).countP p < g.countP p)
include hf

theorem countP_le_of_eq_or_lt (g : Text) : (f g).countP p ≤ g.countP p := by
  rcases hf g with hg | hg
  · rw [hg]
  · exact Nat.le_of_lt hg

/-- What a stretch loses nothing behind it makes up for. -/
theorem append_eq_iff_of_countP_le {t u : Text} (h : u.countP p ≤ t.countP p) (g : Text) :
    f g ++ u = g ++ t ↔ f g = g ∧ u = t := by
  constructor
  · intro heq
    have hcount := congrArg (List.countP p) heq
    rw [List.countP_append, List.countP_append] at hcount
    rcases hf g with hg | hg
    · rw [hg] at heq
      exact ⟨hg, List.append_cancel_left heq⟩
    · omega
  · rintro ⟨hg, rfl⟩
    rw [hg]

theorem countP_restText_map_le (rest : List (Text × Text)) :
    (Layout.restText (rest.map fun (literal, gap) => (literal, f gap))).countP p ≤
      (Layout.restText rest).countP p := by
  induction rest with
  | nil => exact Nat.le_refl _
  | cons e rest ih =>
    have hg := countP_le_of_eq_or_lt hf e.2
    rw [List.map_cons, Layout.restText_cons, Layout.restText_cons, List.countP_append,
      List.countP_append, List.countP_append, List.countP_append]
    omega

theorem restText_map_eq_iff (rest : List (Text × Text)) :
    Layout.restText (rest.map fun (literal, gap) => (literal, f gap)) = Layout.restText rest ↔
      ∀ e ∈ rest, f e.2 = e.2 := by
  induction rest with
  | nil => simp
  | cons e rest ih =>
    rw [List.map_cons, Layout.restText_cons, Layout.restText_cons, List.append_cancel_left_eq,
      append_eq_iff_of_countP_le hf (countP_restText_map_le hf rest), ih, List.forall_mem_cons]

theorem toText_mapGaps_eq_iff (l : Layout) :
    (l.mapGaps f).toText = l.toText ↔ ∀ g ∈ l.gaps, f g = g := by
  rw [Layout.toText_eq, Layout.toText_eq, Layout.mapGaps_first, Layout.mapGaps_rest,
    append_eq_iff_of_countP_le hf (countP_restText_map_le hf l.rest), restText_map_eq_iff hf,
    Layout.gaps, List.forall_mem_cons, List.forall_mem_map]

end

end ThaiScript
