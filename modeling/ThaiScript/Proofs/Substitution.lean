import ThaiScript.Proofs.Shield

/-!
# What substitution does to a source

Delimiters are neutral and numerals hold no Thai letters, so the lexicon leaves the placeholders of
a shielded text and translates each gap as if it were the whole text. Restoring then gives the
layout of the source with its gaps translated: `substitute_of_delimiters`. The marks are neutral as
well, so the translated text has the literals of the source.
-/

namespace ThaiScript

open Text Lexicon

theorem neutral_of_mem_privateUse {c : Char} (h : c ∈ privateUse) : Neutral c := by
  have hc := mem_privateUse.mp h
  refine ⟨isWordChar_privateUse hc, fun hs => ?_⟩
  have := toNat_lt_of_mem_symbols hs
  omega

theorem neutral_of_isMark {c : Char} (h : isMark c = true) : Neutral c := by
  simp only [isMark, Bool.or_eq_true, decide_eq_true_eq] at h
  rcases h with (rfl | rfl) | rfl <;> decide

theorem applyLexicon_ofNat (n : Nat) : applyLexicon (Text.ofNat n) = Text.ofNat n := by
  refine applyLexicon_eq_self (List.countP_eq_zero.mpr fun c hc => ?_)
  have hd := isDigit_of_mem_ofNat hc
  simp only [Char.isDigit, Bool.and_eq_true, decide_eq_true_eq, UInt32.le_iff_toNat_le] at hd
  have h9 : c.toNat ≤ 57 := hd.2
  simp [isThai_eq_false (c := c) (.inl (by omega))]

section
variable {opening closing : Char} (ho : Neutral opening) (hc : Neutral closing)
include ho hc

/-- The placeholders stay and each gap is translated by itself. -/
theorem applyLexicon_number (g : Text) (n : Nat) (rest : List (Text × Text)) :
    applyLexicon (g ++ (Shielded.number opening closing n rest).text) =
      applyLexicon g ++ (Shielded.number opening closing n
        (rest.map fun (literal, gap) => (literal, applyLexicon gap))).text := by
  induction rest generalizing g n with
  | nil => simp [Shielded.number]
  | cons e rest ih =>
    obtain ⟨a, b⟩ := e
    rw [List.map_cons, Shielded.number_cons, Shielded.number_cons]
    simp only [placeholder_eq, List.cons_append, List.append_assoc, List.nil_append]
    rw [applyLexicon_append_cons ho.1, applyLexicon_append_cons hc.1, applyLexicon_ofNat,
      ih b (n + 1)]

end

/-! ## Gaps and literals -/

section
variable {source : Text}

theorem substitute_of_delimiters {opening closing : Char}
    (h : delimiters? source = some (opening, closing)) (hfree : Free source opening closing) :
    substitute source = ((Layout.of source).mapGaps applyLexicon).toText := by
  have ho := neutral_of_mem_privateUse hfree.opening_mem
  have hc := neutral_of_mem_privateUse hfree.closing_mem
  have hout : opening ∉ ((Layout.of source).mapGaps applyLexicon).toText := by
    rw [Layout.mem_toText_mapGaps_iff (mem_applyLexicon_iff ho), Layout.toText_of]
    exact hfree.opening_not_mem
  calc substitute source
      = restore (Shielded.number opening closing 0 (Layout.of source).rest).table
          (applyLexicon ((Layout.of source).first ++
            (Shielded.number opening closing 0 (Layout.of source).rest).text)) := by
        unfold substitute
        rw [Shielded.of_eq h]
    _ = restore
          (Shielded.number opening closing 0 ((Layout.of source).mapGaps applyLexicon).rest).table
          (((Layout.of source).mapGaps applyLexicon).first ++ (Shielded.number opening closing 0
            ((Layout.of source).mapGaps applyLexicon).rest).text) := by
        rw [applyLexicon_number ho hc, ← Shielded.table_number_map applyLexicon,
          Layout.mapGaps_first, Layout.mapGaps_rest]
    _ = ((Layout.of source).mapGaps applyLexicon).toText :=
        Shielded.restore_layout hfree.opening_mem hfree.closing_mem hfree.ne hout

theorem substitute_of_spare (h : 2 ≤ (spare source).length) :
    substitute source = ((Layout.of source).mapGaps applyLexicon).toText := by
  obtain ⟨opening, closing, r, hs⟩ := exists_spare h
  exact substitute_of_delimiters (delimiters?_of_spare hs) (free_of_spare hs)

theorem substitute_of_no_delimiters (h : delimiters? source = none) :
    substitute source = applyLexicon source := by
  unfold substitute
  rw [Shielded.of_eq_self h, restore_nil]

theorem mem_substitute_iff {c : Char} (hc : Neutral c) : c ∈ substitute source ↔ c ∈ source := by
  rcases delimiters?_cases source with ⟨opening, closing, hd, hfree⟩ | hd
  · rw [substitute_of_delimiters hd hfree, Layout.mem_toText_mapGaps_iff (mem_applyLexicon_iff hc),
      Layout.toText_of]
  · rw [substitute_of_no_delimiters hd, mem_applyLexicon_iff hc]

theorem delimiters?_substitute (source : Text) :
    delimiters? (substitute source) = delimiters? source :=
  delimiters?_congr fun _ hc => mem_substitute_iff (neutral_of_mem_privateUse hc)

theorem shape_applyLexicon_isMark (g : Text) : shape isMark (applyLexicon g) = shape isMark g :=
  shape_applyLexicon (fun _ h => neutral_of_isMark h) g

/-- The translated text has the layout of the source with its gaps translated. -/
theorem layout_substitute {opening closing : Char}
    (h : delimiters? source = some (opening, closing)) (hfree : Free source opening closing) :
    Layout.of (substitute source) = (Layout.of source).mapGaps applyLexicon := by
  rw [substitute_of_delimiters h hfree, Layout.of_mapGaps shape_applyLexicon_isMark]

end

/-- A source is cut into its literals and the gaps between them. The literals are the ones that are
shielded; they come out as they are, in their places, and each gap is translated as if it were the
whole text. Without delimiters the whole source is one gap. -/
theorem substitute_eq (source : Text) :
    (Layout.of source).toText = source ∧
    (2 ≤ (spare source).length →
      (Shielded.of source).table.map (·.2) = (Layout.of source).literals ∧
      substitute source = ((Layout.of source).mapGaps applyLexicon).toText ∧
      ∀ e ∈ (Shielded.of source).table, ¬ e.1 <:+: substitute source) ∧
    ((spare source).length < 2 → substitute source = applyLexicon source) := by
  refine ⟨Layout.toText_of source, fun h => ?_, fun h => ?_⟩
  · obtain ⟨opening, closing, r, hs⟩ := exists_spare h
    have hd := delimiters?_of_spare hs
    have hfree := free_of_spare hs
    refine ⟨Shielded.literals_of hd, substitute_of_spare h, ?_⟩
    intro e he hin
    rw [Shielded.of_eq hd] at he
    have hmem := hin.subset (Shielded.opening_mem_of_mem_table he)
    rw [mem_substitute_iff (neutral_of_mem_privateUse hfree.opening_mem)] at hmem
    exact hfree.opening_not_mem hmem
  · exact substitute_of_no_delimiters (delimiters?_eq_none h)

/-- A literal is kept while two private-use characters are spare, and read as words when none is. -/
theorem substitute_eq_quoted :
    substitute "ถ้า'ถ้า'".toList = "if'ถ้า'".toList ∧
    substitute (privateUse ++ "'ถ้า'".toList) = applyLexicon (privateUse ++ "'ถ้า'".toList) := by
  have hspare : 2 ≤ (spare "ถ้า'ถ้า'".toList).length := two_le_length_spare (by decide +kernel)
  have hnone : spare (privateUse ++ "'ถ้า'".toList) = [] :=
    List.filter_eq_nil_iff.mpr fun c hc => by simp [hc]
  have hkept := ((substitute_eq "ถ้า'ถ้า'".toList).2.1 hspare).2.1
  have hread := (substitute_eq (privateUse ++ "'ถ้า'".toList)).2.2 (by rw [hnone]; decide)
  exact ⟨hkept.trans (by decide +kernel), hread⟩

/-- Substitution neither opens, closes, merges nor splits a literal, and changes none. -/
theorem literals_substitute (source : Text) :
    (Shielded.of (substitute source)).table.map (·.2) = (Shielded.of source).table.map (·.2) := by
  rcases delimiters?_cases source with ⟨opening, closing, hd, hfree⟩ | hd
  · have hd' := (delimiters?_substitute source).trans hd
    rw [Shielded.literals_of hd, Shielded.literals_of hd', layout_substitute hd hfree,
      Layout.literals_mapGaps]
  · have hd' := (delimiters?_substitute source).trans hd
    rw [Shielded.of_eq_self hd, Shielded.of_eq_self hd']

end ThaiScript
