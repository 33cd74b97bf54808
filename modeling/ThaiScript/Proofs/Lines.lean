import ThaiScript.Proofs.Substitution
import ThaiScript.Text.Blank

/-!
# The lines of a program

White space is neutral, so substitution changes no shape of white space: the white space of a
program is that of its source, with a stretch of other characters wherever the source has one. A line
feed is white space, so a shape falls into the shapes of the lines, `map_shape_lines`; and the shape
of a line tells its indentation and whether it is blank.
-/

namespace ThaiScript.Text

/-! ## Lines -/

theorem lines_cons_newline (t : Text) : lines ('\n' :: t) = [] :: lines t := rfl

theorem lines_ne_nil (t : Text) : lines t ≠ [] := by
  cases t with
  | nil => exact List.cons_ne_nil _ _
  | cons c t =>
    unfold lines
    split
    · exact List.cons_ne_nil _ _
    · split <;> exact List.cons_ne_nil _ _

theorem lines_cons {c : Char} (h : c ≠ '\n') (t : Text) :
    lines (c :: t) = (lines t).modifyHead (c :: ·) := by
  obtain ⟨l, ls, hl⟩ := List.exists_cons_of_ne_nil (lines_ne_nil t)
  rw [lines, if_neg h, hl]
  rfl

theorem length_lines (t : Text) : (lines t).length = t.count '\n' + 1 := by
  induction t with
  | nil => rfl
  | cons c t ih =>
    by_cases h : c = '\n'
    · rw [h, lines_cons_newline, List.length_cons, ih, List.count_cons_self]
    · rw [lines_cons h, List.length_modifyHead, ih, List.count_cons_of_ne h]

/-! ## Lines and shapes -/

/-- The shapes of the lines of a text of a given shape. -/
def shapeLines : List (Option Char) → List (List (Option Char))
  | [] => [[]]
  | x :: s => if x = some '\n' then [] :: shapeLines s else (shapeLines s).modifyHead (push x)

theorem shapeLines_newline (s : List (Option Char)) :
    shapeLines (some '\n' :: s) = [] :: shapeLines s := if_pos rfl

theorem shapeLines_cons {x : Option Char} (h : x ≠ some '\n') (s : List (Option Char)) :
    shapeLines (x :: s) = (shapeLines s).modifyHead (push x) := if_neg h

theorem shapeLines_push {x : Option Char} (h : x ≠ some '\n') (s : List (Option Char)) :
    shapeLines (push x s) = (shapeLines s).modifyHead (push x) := by
  rcases x with _ | c
  · rcases s with _ | ⟨_ | d, s⟩
    · exact shapeLines_cons h []
    · have hmeet : push none ∘ push none = push none := funext push_none_push_none
      change shapeLines (none :: s) = _
      rw [shapeLines_cons h, List.modifyHead_modifyHead, hmeet]
    · exact shapeLines_cons h _
  · rw [push_some, shapeLines_cons h]

section
variable {keep : Char → Bool}

theorem map_shape_lines (h : keep '\n' = true) (t : Text) :
    (lines t).map (shape keep) = shapeLines (shape keep t) := by
  induction t with
  | nil => rfl
  | cons c t ih =>
    by_cases hc : c = '\n'
    · rw [hc, lines_cons_newline, List.map_cons, ih, shape_cons_of_keep h, shapeLines_newline]
      rfl
    · have hmark : mark keep c ≠ some '\n' := by
        unfold mark
        split <;> simp [hc]
      obtain ⟨l, ls, hl⟩ := List.exists_cons_of_ne_nil (lines_ne_nil t)
      rw [lines_cons hc, shape_cons, shapeLines_push hmark, ← ih, hl]
      rfl

variable {p : Char → Bool} (hp : ∀ c, p c = true → keep c = true)
include hp

theorem eq_false_of_not_keep {c : Char} (h : keep c = false) : p c = false := by
  refine Bool.eq_false_iff.mpr fun hc => ?_
  rw [hp c hc] at h
  cases h

theorem takeWhile_of_shape (t : Text) :
    t.takeWhile p = ((shape keep t).takeWhile (·.any p)).filterMap id := by
  induction t with
  | nil => rfl
  | cons c t ih =>
    cases hk : keep c with
    | true =>
      rw [shape_cons_of_keep hk, List.takeWhile_cons, List.takeWhile_cons, Option.any_some]
      split
      · rw [ih]
        rfl
      · rfl
    | false =>
      obtain ⟨r, hr⟩ := push_none (shape keep t)
      rw [shape_cons_of_not_keep hk, hr, List.takeWhile_cons, List.takeWhile_cons,
        eq_false_of_not_keep hp hk]
      rfl

theorem all_of_shape (t : Text) : t.all p = (shape keep t).all (·.any p) := by
  induction t with
  | nil => rfl
  | cons c t ih =>
    cases hk : keep c with
    | true => rw [shape_cons_of_keep hk, List.all_cons, List.all_cons, ih, Option.any_some]
    | false =>
      obtain ⟨r, hr⟩ := push_none (shape keep t)
      rw [shape_cons_of_not_keep hk, hr, List.all_cons, List.all_cons, eq_false_of_not_keep hp hk]
      rfl

end

section
variable {keep p : Char → Bool} (hn : keep '\n' = true) (hp : ∀ c, p c = true → keep c = true)
variable {t u : Text} (h : shape keep u = shape keep t)
include hn hp h

/-- The lines of texts of one shape begin with the same characters. -/
theorem map_takeWhile_lines : (lines u).map (·.takeWhile p) = (lines t).map (·.takeWhile p) := by
  have hlines := congrArg shapeLines h
  rw [← map_shape_lines hn, ← map_shape_lines hn] at hlines
  have hfirst := congrArg (List.map fun s => (s.takeWhile (·.any p)).filterMap id) hlines
  simpa only [List.map_map, Function.comp_def, ← takeWhile_of_shape hp] using hfirst

theorem map_all_lines : (lines u).map (·.all p) = (lines t).map (·.all p) := by
  have hlines := congrArg shapeLines h
  rw [← map_shape_lines hn, ← map_shape_lines hn] at hlines
  have hall := congrArg (List.map fun s => s.all (·.any p)) hlines
  simpa only [List.map_map, Function.comp_def, ← all_of_shape hp] using hall

end

/-- The characters that indent a line. -/
def isIndent (c : Char) : Bool := c = ' ' || c = '\t'

/-- The spaces and tabs that a line begins with. -/
def indentation (line : Text) : Text := line.takeWhile isIndent

theorem isBlankChar_of_isIndent {c : Char} (h : isIndent c = true) : isBlankChar c = true := by
  simp only [isIndent, Bool.or_eq_true, decide_eq_true_eq] at h
  rcases h with rfl | rfl <;> decide

end ThaiScript.Text

namespace ThaiScript

open Text Lexicon

/-! ## Substitution -/

theorem neutral_of_isBlankChar {c : Char} (h : isBlankChar c = true) : Neutral c := by
  have hwords : ∀ r ∈ blankRanges, ∀ w ∈ wordRanges, r.2 < w.1 ∨ w.2 < r.1 := by decide +kernel
  have hsymbols : symbols.all (fun c => !isBlankChar c) = true := by decide
  obtain ⟨r, hr, hlo, hhi⟩ := exists_of_inRanges h
  refine ⟨Bool.eq_false_iff.mpr fun hw => ?_, fun hs => ?_⟩
  · obtain ⟨w, hw, hwlo, hwhi⟩ := (isWordChar_iff c).mp hw
    have := hwords r hr w hw
    omega
  · have hblank := List.all_eq_true.mp hsymbols c hs
    rw [h] at hblank
    cases hblank

theorem shape_substitute {keep : Char → Bool} (hkeep : ∀ c, keep c = true → Neutral c)
    (source : Text) : shape keep (substitute source) = shape keep source := by
  have hgaps := shape_applyLexicon hkeep
  rcases delimiters?_cases source with ⟨opening, closing, hd, hfree⟩ | hd
  · rw [substitute_of_delimiters hd hfree, Layout.shape_mapGaps hgaps, Layout.toText_of]
  · rw [substitute_of_no_delimiters hd, hgaps]

/-- A program has the line feeds of its source. Each of its lines has the indentation of the line of
the source, and is blank just when that one is: without any characters but spaces and tabs, and
without any but white space. -/
theorem lines_substitute (source : Text) :
    (substitute source).count '\n' = source.count '\n' ∧
    (lines (substitute source)).map indentation = (lines source).map indentation ∧
    (lines (substitute source)).map (·.all isIndent) = (lines source).map (·.all isIndent) ∧
    (lines (substitute source)).map isBlank = (lines source).map isBlank := by
  have hshape := shape_substitute (fun _ h => neutral_of_isBlankChar h) source
  have hn : isBlankChar '\n' = true := by decide
  have hindent := map_takeWhile_lines hn (fun _ h => isBlankChar_of_isIndent h) hshape
  refine ⟨?_, hindent, map_all_lines hn (fun _ h => isBlankChar_of_isIndent h) hshape,
    map_all_lines hn (fun _ h => h) hshape⟩
  have hlength := congrArg List.length hindent
  rw [List.length_map, List.length_map, length_lines, length_lines] at hlength
  exact Nat.add_right_cancel hlength

end ThaiScript
