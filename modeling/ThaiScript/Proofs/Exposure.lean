import ThaiScript.Proofs.Marked
import ThaiScript.Proofs.Strings

/-!
# Strings that substitution changes

Signs are neutral, so a stretch between signs is translated by itself, and the reader takes it as a
whole before and after. Hence the strings of a translated program are the strings of the source,
each with its exposed stretches translated: `collect_mapExposed`. A string is exposed where no
literal of the layout holds it, and that comes of quotes in comments: the layout pairs them, the
reader does not.
-/

namespace ThaiScript

open Lexicon Marked Strings

/-! ## Stretches between signs -/

theorem neutral_of_isSign {c : Char} (h : isSign c = true) : Neutral c := by
  simp only [isSign, isBreak, Bool.or_eq_true, decide_eq_true_eq] at h
  rcases h with ((hq | rfl) | rfl) | rfl | rfl
  · obtain ⟨q, hq⟩ := Option.isSome_iff_exists.mp hq
    rw [Quote.ofChar?_eq_some.mp hq]
    cases q <;> decide
  · decide
  · decide
  · decide
  · decide

/-- A marked text is read from the left: behind a mark or a sign, else behind a stretch. -/
theorem stretch_induction {P : Marked → Prop} (nil : P [])
    (cut : ∀ x s, x.2 = true ∨ isSign x.1 = true → P s → P (x :: s))
    (stretch : ∀ p s, p ≠ [] → (∀ c ∈ p, isSign c = false) → Cut s → P s → P (flag false p ++ s))
    (s : Marked) : P s := by
  have hjoin : ∀ p s, (∀ c ∈ p, isSign c = false) → Cut s → P s → P (flag false p ++ s) := by
    intro p s hp hs h
    by_cases hne : p = []
    · rw [hne]
      exact h
    · exact stretch p s hne hp hs h
  -- `p` is the stretch that was read so far and that `s` may go on with
  suffices hp : ∀ p, (∀ c ∈ p, isSign c = false) → P (flag false p ++ s) from hp [] (by simp)
  induction s with
  | nil => exact fun p hp => hjoin p [] hp (fun x hx => by cases hx) nil
  | cons x s ih =>
    intro p hp
    by_cases hx : x.2 = true ∨ isSign x.1 = true
    · have hcut : Cut (x :: s) := by
        intro y hy
        cases hy
        exact hx.imp_right neutral_of_isSign
      exact hjoin p (x :: s) hp hcut (cut x s hx (ih [] (by simp)))
    · obtain ⟨c, b⟩ := x
      simp only [not_or, Bool.not_eq_true] at hx
      obtain ⟨rfl, hc⟩ := hx
      have hgo := ih (p ++ [c]) (by simpa [or_imp, forall_and] using ⟨hp, hc⟩)
      simpa [flag] using hgo

section
variable {f : Text → Text} (hf : Piecewise f)
include hf

theorem mapExposed_cons_of_cut {x : Char × Bool} (h : x.2 = true ∨ isSign x.1 = true) (s : Marked) :
    mapExposed f (x :: s) = x :: mapExposed f s := by
  obtain ⟨c, b⟩ := x
  cases b with
  | true => exact mapExposed_cons_of_marked hf c s
  | false =>
    have hc : isSign c = true := by simpa using h
    exact mapExposed_cons_of_neutral hf (neutral_of_isSign hc) s

/-- A stretch stays a stretch: it has no signs, and it does not vanish. -/
theorem isSign_eq_false_of_mem_flag {p : Text} (hp : ∀ c ∈ p, isSign c = false) :
    ∀ x ∈ flag false (f p), isSign x.1 = false := by
  intro x hx
  obtain ⟨c, hc, rfl⟩ := List.mem_map.mp hx
  by_contra h
  rw [Bool.not_eq_false] at h
  rw [hf.mem_iff (neutral_of_isSign h)] at hc
  rw [hp c hc] at h
  cases h

theorem flag_map_ne_nil {p : Text} (hp : p ≠ []) : flag false (f p) ≠ [] := by
  rw [flag, Ne, List.map_eq_nil_iff, hf.eq_nil_iff]
  exact hp

/-! ## Reading a translated text -/

theorem run_mapExposed (m : Mode) (s : Marked) :
    run Prod.fst m (mapExposed f s) = run Prod.fst m s := by
  induction s using stretch_induction generalizing m with
  | nil => rw [mapExposed_nil hf]
  | cut x s hx ih => rw [mapExposed_cons_of_cut hf hx, run_cons, run_cons, ih]
  | stretch p s hne hp hs ih =>
    have hp' : ∀ x ∈ flag false p, isSign x.1 = false := by simpa [flag] using hp
    have hne' : flag false p ≠ [] := by simpa [flag] using hne
    rw [mapExposed_append_of_cut hf hs, run_append, run_append, run_plain _ hp' hne',
      run_plain _ (isSign_eq_false_of_mem_flag hf hp) (flag_map_ne_nil hf hne), ih]

/-- The strings of the changed text are the strings of the text, each changed in itself. -/
theorem collect_mapExposed (m : Mode) (s : Marked) :
    collect Prod.fst m (mapExposed f s) =
      (mapExposed f (collect Prod.fst m s).1, (collect Prod.fst m s).2.map (mapExposed f)) := by
  induction s using stretch_induction generalizing m with
  | nil => rw [mapExposed_nil hf, collect, mapExposed_nil hf, List.map_nil]
  | cut x s hx ih =>
    rw [mapExposed_cons_of_cut hf hx, collect, collect, ih]
    cases place m x.1 with
    | outside => simp only [mapExposed_nil hf]
    | first => simp only [mapExposed_nil hf, List.map_cons, mapExposed_cons_of_cut hf hx]
    | inside => simp only [mapExposed_cons_of_cut hf hx]
  | stretch p s hne hp hs ih =>
    have hp' : ∀ x ∈ flag false p, isSign x.1 = false := by simpa [flag] using hp
    have hne' : flag false p ≠ [] := by simpa [flag] using hne
    rw [mapExposed_append_of_cut hf hs, collect_plain _ hp' hne',
      collect_plain _ (isSign_eq_false_of_mem_flag hf hp) (flag_map_ne_nil hf hne), ih]
    have hcut := hs.of_isPrefix (collect_fst_isPrefix Prod.fst m.settled s)
    cases m.inString
    · simp only [Bool.false_eq_true, if_false, mapExposed_nil hf]
    · simp only [if_true, mapExposed_append_of_cut hf hcut]

end

/-- Reading does not look at marks. -/
theorem strings_text {s : Marked} (h : (run Prod.fst .code s).closed = true) :
    strings s.text = some ((collect Prod.fst .code s).2.map Marked.text) := by
  rw [strings, Marked.text, run_map, collect_map]
  exact if_pos h

/-! ## What is exposed -/

/-- The strings of a source, with the characters marked that literals of the layout hold. -/
def markedStrings (source : Text) : List Marked :=
  (collect Prod.fst .code (Layout.of source).marked).2

section
variable {source : Text}

theorem text_marked_of (source : Text) : (Layout.of source).marked.text = source := by
  rw [text_marked, Layout.toText_of]

theorem closed_run_marked (h : (strings source).isSome = true) :
    (run Prod.fst .code (Layout.of source).marked).closed = true := by
  rw [isSome_strings, ← text_marked_of source, Marked.text, run_map] at h
  exact h

theorem strings_eq (h : (strings source).isSome = true) :
    strings source = some ((markedStrings source).map Marked.text) := by
  have hs := strings_text (closed_run_marked h)
  rwa [text_marked_of] at hs

/-- The strings of a source still end in the translated text, and each is translated where it is
exposed. -/
theorem strings_substitute_eq (hspare : 2 ≤ (spare source).length)
    (h : (strings source).isSome = true) :
    strings (substitute source) =
      some ((markedStrings source).map fun s => (s.mapExposed applyLexicon).text) := by
  have hsub : substitute source = ((Layout.of source).marked.mapExposed applyLexicon).text := by
    rw [mapExposed_marked piecewise_applyLexicon Layout.ne_nil_of_mem_rest, text_marked]
    exact substitute_of_spare hspare
  have hclosed := closed_run_marked h
  rw [← run_mapExposed piecewise_applyLexicon] at hclosed
  rw [hsub, strings_text hclosed, collect_mapExposed piecewise_applyLexicon, List.map_map,
    markedStrings, Function.comp_def]

theorem text_mapExposed_eq_iff (s : Marked) :
    (s.mapExposed applyLexicon).text = s.text ↔ ∀ g ∈ s.exposed, applyLexicon g = g := by
  rw [text_mapExposed, ← toText_layout, toText_mapGaps_eq_iff applyLexicon_eq_or_countP_lt]
  rfl

end

/-- The strings of a program are left as they are just when no stretch of them that lies outside of
the shielded literals is one that the lexicon changes. -/
theorem strings_substitute_eq_iff {source : Text} (hspare : 2 ≤ (spare source).length)
    (h : (strings source).isSome = true) :
    strings (substitute source) = strings source ↔
      ∀ s ∈ markedStrings source, ∀ g ∈ s.exposed, applyLexicon g = g := by
  rw [strings_substitute_eq hspare h, strings_eq h, Option.some_inj, List.map_inj_left]
  exact forall₂_congr fun s _ => text_mapExposed_eq_iff s

/-- A quote in a comment exposes a string; one without words of the lexicon stays as it is. -/
theorem strings_substitute_exposed :
    2 ≤ (spare "# it's\nx = 'ok'\n".toList).length ∧
      (strings "# it's\nx = 'ok'\n".toList).isSome = true ∧
      strings (substitute "# it's\nx = 'ok'\n".toList) = strings "# it's\nx = 'ok'\n".toList := by
  have hspare : 2 ≤ (spare "# it's\nx = 'ok'\n".toList).length :=
    two_le_length_spare (by decide +kernel)
  have hread : (strings "# it's\nx = 'ok'\n".toList).isSome = true := by decide +kernel
  exact ⟨hspare, hread, (strings_substitute_eq_iff hspare hread).mpr (by decide +kernel)⟩

/-- A word in an exposed string is translated. -/
theorem strings_substitute_ne :
    2 ≤ (spare "# it's\nx = 'ถ้า'\n".toList).length ∧
      (strings "# it's\nx = 'ถ้า'\n".toList).isSome = true ∧
      strings (substitute "# it's\nx = 'ถ้า'\n".toList) ≠ strings "# it's\nx = 'ถ้า'\n".toList :=
  ⟨two_le_length_spare (by decide +kernel), by decide +kernel, by decide +kernel⟩

end ThaiScript
