import ThaiScript.Proofs.Marked
import ThaiScript.Proofs.Occurrences
import ThaiScript.Proofs.Words

/-!
# Translating a translation

The lexicon leaves a text as it is just when no word of it is a keyword and no operator word occurs
in it. No operator word is left after a translation, but a keyword can be: a word that is no keyword
may hold one beside an operator word, and only what replaces that one sets it free. So a translation
is complete except for these keywords, `substitute_substitute_eq_iff`, and a second one always is.
-/

namespace ThaiScript.Text

/-! ## Words and what stands around them -/

theorem exists_of_mem_words {w t : Text} (h : w ∈ words t) :
    ∃ a b, t = a ++ (w ++ b) ∧ (∀ c ∈ a.getLast?, isWordChar c = false) ∧
      ∀ c ∈ b.head?, isWordChar c = false := by
  induction t using stretches_induction with
  | nil => cases h
  | stretch kind s t hs ih =>
    -- what stands before a word of the rest ends with the other kind of characters, or is `s`
    have hrest : w ∈ words t → ∃ a b, s ++ t = a ++ (w ++ b) ∧
        (∀ c ∈ a.getLast?, isWordChar c = false) ∧ ∀ c ∈ b.head?, isWordChar c = false := by
      intro hw
      obtain ⟨a, b, rfl, ha, hb⟩ := ih hw
      refine ⟨s ++ a, b, by rw [List.append_assoc], fun c hc => ?_, hb⟩
      rw [List.getLast?_append] at hc
      cases a with
      | nil =>
        obtain ⟨d, w, rfl⟩ := List.exists_cons_of_ne_nil (ne_nil_of_mem_words hw)
        have hd := isWord_iff.mp (isWord_of_mem_words hw) d List.mem_cons_self
        have hkind := hs.kind_of_head d rfl
        rw [hs.kind_of_mem c (List.mem_of_getLast? hc)]
        rw [hd] at hkind
        exact Bool.eq_false_iff.mpr (Ne.symm hkind)
      | cons d a =>
        rw [List.getLast?_eq_some_getLast (List.cons_ne_nil d a), Option.some_or] at hc
        exact ha c ((List.getLast?_eq_some_getLast (List.cons_ne_nil d a)).trans hc)
    rw [hs.words_append] at h
    cases kind with
    | false => exact hrest h
    | true =>
      rcases List.mem_cons.mp h with rfl | h
      · exact ⟨[], t, rfl, by simp, by simpa using hs.kind_of_head⟩
      · exact hrest h

theorem words_of_isWord {w : Text} (hne : w ≠ []) (hw : isWord w = true) : words w = [w] := by
  have h : Stretch true w [] := ⟨hne, isWord_iff.mp hw, by simp⟩
  simpa using h.words_append

theorem mapWords_eq_self {f : Text → Text} {t : Text} (h : ∀ w ∈ words t, f w = w) :
    mapWords f t = t := by
  have hkeep : ∀ s ∈ stretches t, (if isWord s then f s else s) = s := by
    intro s hs
    split
    · next hw => exact h s (List.mem_filter.mpr ⟨hs, hw⟩)
    · rfl
  rw [mapWords, List.flatMap_congr hkeep, List.flatMap_id', (stretches_spec t).flatten]

namespace Cuts

variable {f : Text → Text} (hf : Cuts f)
include hf

theorem append_of_getLast {a : Text} (h : ∀ c ∈ a.getLast?, isWordChar c = false) (t : Text) :
    f (a ++ t) = f a ++ f t := by
  rcases List.eq_nil_or_concat a with rfl | ⟨a, c, rfl⟩
  · rw [hf.map_nil]
    rfl
  · have hc : isWordChar c = false := h c (by simp)
    rw [List.concat_eq_append, List.append_assoc, List.singleton_append, hf.append_cons hc,
      hf.append_cons hc, hf.map_nil, List.append_assoc, List.singleton_append]

theorem words_eq (t : Text) : words (f t) = (words t).flatMap fun w => words (f w) := by
  induction t using stretches_induction with
  | nil => rw [hf.map_nil]; rfl
  | stretch kind s t h ih =>
    rw [h.words_append]
    cases kind with
    | false => rw [hf.append_of_not_isWordChar h.kind_of_mem, words_append h.kind_of_mem, ih]; rfl
    | true =>
      have hhead : ∀ c ∈ t.head?, isWordChar c = false := by simpa using h.kind_of_head
      rw [if_pos rfl, List.flatMap_cons, ← ih, hf.append_of_head hhead]
      cases t with
      | nil => rw [hf.map_nil, List.append_nil, words_nil, List.append_nil]
      | cons c t =>
        have hc := hhead c rfl
        have hcut := hf.append_cons hc [] t
        rw [hf.map_nil, List.nil_append, List.nil_append] at hcut
        rw [hcut, words_append_cons hc, words_cons hc]

/-- A text stays as it is when its words do; when one changes, the measure falls. -/
theorem eq_self_iff {p : Char → Bool} (hp : ∀ g, f g = g ∨ (f g).countP p < g.countP p)
    (t : Text) : f t = t ↔ ∀ w ∈ words t, f w = w := by
  constructor
  · intro h w hw
    obtain ⟨a, b, rfl, ha, hb⟩ := exists_of_mem_words hw
    have hcount := congrArg (List.countP p) h
    have hle := countP_le_of_eq_or_lt hp
    rw [hf.append_of_getLast ha, hf.append_of_head hb] at hcount
    simp only [List.countP_append] at hcount
    have := hle a
    have := hle b
    exact (hp w).resolve_right (by omega)
  · intro h
    rw [hf.eq_mapWords, mapWords_eq_self h]

end Cuts

end ThaiScript.Text

namespace ThaiScript

open Text

/-! ## Keywords that are set free -/

namespace Lexicon.Rewritten

variable {es : List Entry} {t u : Text} (ht : isWord t = true)
include ht

/-- Where a word no longer begins with a word character, one of the replaced words was written. -/
theorem isPrefix_of_head {c : Char} (hc : isWordChar c = false) (h : Rewritten es t (c :: u)) :
    ∃ e ∈ es, e.1 <+: t := by
  generalize hw : c :: u = w at h
  cases h with
  | nil => cases hw
  | @hit e t _ he _ => exact ⟨e, he, List.prefix_append e.1 t⟩
  | keep d _ =>
    obtain ⟨rfl, -⟩ := List.cons.inj hw
    rw [isWord_iff.mp ht c List.mem_cons_self] at hc
    cases hc

theorem isSuffix_of_getLast (hes : ∀ e ∈ es, Sound e) {c : Char} (hc : isWordChar c = false)
    (h : Rewritten es t (u ++ [c])) : ∃ e ∈ es, e.1 <:+ t := by
  generalize hw : u ++ [c] = w at h
  induction h generalizing u with
  | nil => simp at hw
  | @hit e t w he h ih =>
    rcases List.eq_nil_or_concat w with rfl | ⟨w, d, rfl⟩
    · rw [eq_nil hes h]
      exact ⟨e, he, by simp⟩
    · rw [List.concat_eq_append, ← List.append_assoc] at hw
      obtain ⟨-, hd⟩ := List.append_inj' hw rfl
      rw [List.concat_eq_append, ← hd] at ih
      have hrest : isWord t = true :=
        isWord_iff.mpr fun x hx => isWord_iff.mp ht x (List.mem_append_right e.1 hx)
      obtain ⟨f, hf, hsuf⟩ := ih hrest rfl
      exact ⟨f, hf, hsuf.trans (List.suffix_append e.1 t)⟩
  | @keep d t w h ih =>
    rw [isWord_iff, List.forall_mem_cons] at ht
    rcases List.eq_nil_or_concat w with rfl | ⟨w, x, rfl⟩
    · obtain ⟨-, hd⟩ := List.append_inj' (hw.trans (List.nil_append [d]).symm) rfl
      rw [List.singleton_inj.mp hd, ht.1] at hc
      cases hc
    · rw [List.concat_eq_append, ← List.cons_append] at hw
      obtain ⟨-, hx⟩ := List.append_inj' hw rfl
      rw [List.concat_eq_append, ← hx] at ih
      obtain ⟨f, hf, hsuf⟩ := ih (isWord_iff.mpr ht.2) rfl
      exact ⟨f, hf, hsuf.trans (List.suffix_cons d t)⟩

/-- A word of Thai letters that a rewriting leaves in another one stood flush against a word that
was replaced. -/
theorem eq_or_flush (hes : ∀ e ∈ es, Sound e) (h : Rewritten es t u) {v : Text}
    (hv : v ∈ words u) (hthai : ∀ c ∈ v, isThai c = true) :
    t = v ∨ ∃ e ∈ es, v ++ e.1 <:+: t ∨ e.1 ++ v <:+: t := by
  obtain ⟨a, b, rfl, ha, hb⟩ := exists_of_mem_words hv
  obtain ⟨r, s, rfl, hr, hs⟩ := of_append_append hes hthai (ne_nil_of_mem_words hv) h
  rw [isWord_iff] at ht
  have hrw : isWord r = true := isWord_iff.mpr fun c hc => ht c (by simp [hc])
  have hsw : isWord s = true := isWord_iff.mpr fun c hc => ht c (by simp [hc])
  cases b with
  | cons c b =>
    obtain ⟨e, he, x, rfl⟩ := hs.isPrefix_of_head hsw (hb c rfl)
    exact .inr ⟨e, he, .inl ⟨r, x, by simp only [List.append_assoc]⟩⟩
  | nil =>
    rcases List.eq_nil_or_concat a with rfl | ⟨a, c, rfl⟩
    · rw [eq_nil hes hr, eq_nil hes hs, List.nil_append, List.append_nil]
      exact .inl rfl
    · rw [List.concat_eq_append] at hr
      obtain ⟨e, he, x, rfl⟩ := hr.isSuffix_of_getLast hrw hes (ha c (by simp))
      exact .inr ⟨e, he, .inr ⟨x, s, by simp only [List.append_assoc]⟩⟩

end Lexicon.Rewritten

open Lexicon

theorem isThai_of_keyword? {w : Text} (h : keyword? w ≠ none) : ∀ c ∈ w, isThai c = true := by
  obtain ⟨p, hp⟩ := Option.ne_none_iff_exists'.mp h
  exact (sound_of_keyword? hp).2.2.1

/-- What is written for a keyword holds none. -/
theorem keyword?_of_mem_words_new {w p v : Text} (h : keyword? w = some p) (hv : v ∈ words p) :
    keyword? v = none := by
  by_contra hk
  obtain ⟨c, r, rfl⟩ := List.exists_cons_of_ne_nil (ne_nil_of_mem_words hv)
  obtain ⟨a, b, rfl, -, -⟩ := exists_of_mem_words hv
  have hnone := List.countP_eq_zero.mp (sound_of_keyword? h).countP_new c (by simp)
  exact hnone (isThai_of_keyword? hk c List.mem_cons_self)

/-! ## Texts that the lexicon leaves -/

theorem applyLexicon_eq_self_iff_of_isWord {w : Text} (hw : isWord w = true) :
    applyLexicon w = w ↔ keyword? w = none ∧ applyOperators w = w := by
  rw [applyLexicon_of_isWord hw]
  cases hk : keyword? w with
  | none => simp
  | some p =>
    have hne : p ≠ w := by
      rintro rfl
      exact (sound_of_keyword? hk).countP_word_pos.ne' (sound_of_keyword? hk).countP_new
    simp [hne]

/-- What is left of the words of a text. -/
theorem words_applyLexicon (t : Text) :
    words (applyLexicon t) = (words t).flatMap fun w => words (applyLexicon w) :=
  cuts_applyLexicon.words_eq t

theorem not_isInfix_applyLexicon {e : Entry} (he : e ∈ operators) (t : Text) :
    ¬ e.1 <:+: applyLexicon t := not_isInfix_applyOperators he (applyKeywords t)

theorem isInfix_of_mem_words {w t : Text} (h : w ∈ words t) : w <:+: t := by
  obtain ⟨a, b, rfl, -, -⟩ := exists_of_mem_words h
  exact ⟨a, b, List.append_assoc a w b⟩

theorem applyOperators_of_mem_words {t v : Text} (h : v ∈ words (applyLexicon t)) :
    applyOperators v = v :=
  (applyOperators_eq_self_iff v).mpr fun _ he hv =>
    not_isInfix_applyLexicon he t (hv.trans (isInfix_of_mem_words h))

/-- No operator word is left in a translation, so it stays when no keyword is left in it. -/
theorem applyLexicon_applyLexicon_eq_iff (t : Text) :
    applyLexicon (applyLexicon t) = applyLexicon t ↔
      ∀ v ∈ words (applyLexicon t), keyword? v = none := by
  rw [cuts_applyLexicon.eq_self_iff applyLexicon_eq_or_countP_lt]
  refine forall₂_congr fun v hv => ?_
  rw [applyLexicon_eq_self_iff_of_isWord (isWord_of_mem_words hv)]
  exact and_iff_left (applyOperators_of_mem_words hv)

/-- A keyword that is left was part of a word that is none. -/
theorem forall_mem_words_applyLexicon_iff (t : Text) :
    (∀ v ∈ words (applyLexicon t), keyword? v = none) ↔
      ∀ w ∈ words t, keyword? w = none → ∀ v ∈ words (applyOperators w), keyword? v = none := by
  rw [words_applyLexicon, List.forall_mem_flatMap]
  refine forall₂_congr fun w hw => ?_
  rw [applyLexicon_of_isWord (isWord_of_mem_words hw)]
  cases hk : keyword? w with
  | none => simp
  | some p => simpa using fun v hv => keyword?_of_mem_words_new hk hv

theorem applyLexicon_applyLexicon_applyLexicon (t : Text) :
    applyLexicon (applyLexicon (applyLexicon t)) = applyLexicon (applyLexicon t) := by
  rw [applyLexicon_applyLexicon_eq_iff, forall_mem_words_applyLexicon_iff]
  intro w hw hk v hv
  rw [applyOperators_of_mem_words hw,
    words_of_isWord (ne_nil_of_mem_words hw) (isWord_of_mem_words hw), List.mem_singleton] at hv
  rwa [hv]

theorem exists_flush_of_mem_words {t v : Text} (hv : v ∈ words (applyLexicon t))
    (hk : keyword? v ≠ none) :
    ∃ w ∈ words t, keyword? w = none ∧ ∃ e ∈ operators, v ++ e.1 <:+: w ∨ e.1 ++ v <:+: w := by
  rw [words_applyLexicon, List.mem_flatMap] at hv
  obtain ⟨w, hw, hv⟩ := hv
  have hword := isWord_of_mem_words hw
  rw [applyLexicon_of_isWord hword] at hv
  cases hkw : keyword? w with
  | some p =>
    rw [hkw, Option.getD_some] at hv
    exact absurd (keyword?_of_mem_words_new hkw hv) hk
  | none =>
    rw [hkw, Option.getD_none] at hv
    have hes : ∀ e ∈ operators, Sound e := fun e he => sound_of_mem (List.mem_append_right _ he)
    rcases (applyOperators_rewritten w).eq_or_flush hword hes hv (isThai_of_keyword? hk) with
      rfl | hflush
    · exact absurd hkw hk
    · exact ⟨w, hw, hkw, hflush⟩

/-! ## Translations of translations -/

/-- The parts of a source that are translated: what stands between its literals, or all of it when
literals cannot be shielded. -/
def gaps (source : Text) : List Text :=
  match delimiters? source with
  | some _ => (Layout.of source).gaps
  | none => [source]

theorem gaps_of_delimiters {source : Text} {d : Char × Char} (h : delimiters? source = some d) :
    gaps source = (Layout.of source).gaps := by
  unfold gaps
  rw [h]

theorem gaps_of_no_delimiters {source : Text} (h : delimiters? source = none) :
    gaps source = [source] := by
  unfold gaps
  rw [h]

theorem gaps_substitute (source : Text) :
    gaps (substitute source) = (gaps source).map applyLexicon := by
  rcases delimiters?_cases source with ⟨opening, closing, hd, hfree⟩ | hd
  · have hd' := (delimiters?_substitute source).trans hd
    rw [gaps_of_delimiters hd, gaps_of_delimiters hd', layout_substitute hd hfree]
    simp [Layout.gaps]
  · have hd' := (delimiters?_substitute source).trans hd
    rw [gaps_of_no_delimiters hd, gaps_of_no_delimiters hd', substitute_of_no_delimiters hd]
    rfl

theorem substitute_eq_self_iff (source : Text) :
    substitute source = source ↔ ∀ g ∈ gaps source, applyLexicon g = g := by
  rcases delimiters?_cases source with ⟨opening, closing, hd, hfree⟩ | hd
  · have hkeep := toText_mapGaps_eq_iff applyLexicon_eq_or_countP_lt (Layout.of source)
    rw [Layout.toText_of] at hkeep
    rw [substitute_of_delimiters hd hfree, gaps_of_delimiters hd, hkeep]
  · rw [substitute_of_no_delimiters hd, gaps_of_no_delimiters hd, List.forall_mem_singleton]

theorem substitute_substitute_eq_self_iff (source : Text) :
    substitute (substitute source) = substitute source ↔
      ∀ g ∈ gaps source, applyLexicon (applyLexicon g) = applyLexicon g := by
  rw [substitute_eq_self_iff, gaps_substitute, List.forall_mem_map]

/-- A translation is complete just when no word that is no keyword comes apart, at the operator
words in it, into words of which one is a keyword; its translation always is. A translation holds
no operator word, and each keyword in it was written flush against one, as a part of a word. -/
theorem substitute_substitute_eq_iff (source : Text) :
    (substitute (substitute source) = substitute source ↔
      ∀ g ∈ gaps source, ∀ w ∈ words g, keyword? w = none →
        ∀ v ∈ words (applyOperators w), keyword? v = none) ∧
    substitute (substitute (substitute source)) = substitute (substitute source) ∧
    ∀ t ∈ gaps (substitute source),
      (∀ e ∈ operators, ¬ e.1 <:+: t) ∧
      ∀ v ∈ words t, keyword? v ≠ none →
        ∃ g ∈ gaps source, ∃ w ∈ words g, keyword? w = none ∧
          ∃ e ∈ operators, v ++ e.1 <:+: w ∨ e.1 ++ v <:+: w := by
  refine ⟨?_, ?_, ?_⟩
  · rw [substitute_substitute_eq_self_iff]
    refine forall₂_congr fun g _ => ?_
    rw [applyLexicon_applyLexicon_eq_iff, forall_mem_words_applyLexicon_iff]
  · rw [substitute_substitute_eq_self_iff, gaps_substitute, List.forall_mem_map]
    exact fun g _ => applyLexicon_applyLexicon_applyLexicon g
  · rw [gaps_substitute, List.forall_mem_map]
    intro g hg
    refine ⟨fun e he => not_isInfix_applyLexicon he g, fun v hv hk => ?_⟩
    exact ⟨g, hg, exists_flush_of_mem_words hv hk⟩

/-- The keyword that is left here was written flush against an operator word. -/
theorem exists_flush_of_mem_words_substitute :
    "ส่งคืน-1".toList ∈ gaps (substitute "ส่งคืนลบ1".toList) ∧
    "ส่งคืน".toList ∈ words "ส่งคืน-1".toList ∧ keyword? "ส่งคืน".toList ≠ none ∧
    ∃ g ∈ gaps "ส่งคืนลบ1".toList, ∃ w ∈ words g, keyword? w = none ∧
      ∃ e ∈ operators, "ส่งคืน".toList ++ e.1 <:+: w ∨ e.1 ++ "ส่งคืน".toList <:+: w := by
  have hgap : "ส่งคืน-1".toList ∈ gaps (substitute "ส่งคืนลบ1".toList) := by decide +kernel
  have hword : "ส่งคืน".toList ∈ words "ส่งคืน-1".toList := by decide +kernel
  have hkeyword : keyword? "ส่งคืน".toList ≠ none := by decide +kernel
  have hflush := ((substitute_substitute_eq_iff "ส่งคืนลบ1".toList).2.2 _ hgap).2
  exact ⟨hgap, hword, hkeyword, hflush _ hword hkeyword⟩

/-- Before an operator word a keyword is no word yet when keywords are replaced. -/
theorem substitute_substitute_ne :
    substitute (substitute "ส่งคืนลบ1".toList) ≠ substitute "ส่งคืนลบ1".toList := by
  decide +kernel

end ThaiScript
