import Mathlib.Data.List.MinMax
import ThaiScript.Proofs.Occurrences
import ThaiScript.Proofs.Passes

/-!
# Operator words in one reading

The passes for the operator words do what one reading from the left does that takes the longest
word at each place: `applyOperators_eq_reading`. Besides words inside of longer ones, two words
compete for a letter only where one of them ends as the other one begins, and that is the last
letter of ลบ and of the words in เท่ากับ, with which บวก begins. The longer words are tried before
บวก and keep the letter, ลบ is tried after it and loses it.
-/

namespace ThaiScript.Lexicon

open Text

/-! ## The longest word at a place -/

/-- The longest word of a table at the head of a text, with what stands for it. -/
def longestAt? (es : List Entry) (t : Text) : Option Entry :=
  (es.filter fun e => e.1.isPrefixOf t).argmax fun e => e.1.length

section
variable {es : List Entry} {e f : Entry} {t u : Text}

theorem mem_of_longestAt? (h : longestAt? es t = some e) : e ∈ es ∧ e.1 <+: t := by
  have hmem := List.mem_filter.mp (List.argmax_mem h)
  exact ⟨hmem.1, List.isPrefixOf_iff_prefix.mp hmem.2⟩

theorem length_le_of_longestAt? (h : longestAt? es t = some e) (hf : f ∈ es) (hp : f.1 <+: t) :
    f.1.length ≤ e.1.length :=
  List.le_of_mem_argmax (f := fun e : Entry => e.1.length)
    (List.mem_filter.mpr ⟨hf, List.isPrefixOf_iff_prefix.mpr hp⟩) h

theorem longestAt?_eq_none_iff : longestAt? es t = none ↔ ∀ e ∈ es, ¬ e.1 <+: t := by
  rw [longestAt?, List.argmax_eq_none, List.filter_eq_nil_iff]
  simp only [List.isPrefixOf_iff_prefix]

theorem longestAt?_congr (h : ∀ e ∈ es, e.1 <+: t ↔ e.1 <+: u) :
    longestAt? es t = longestAt? es u := by
  unfold longestAt?
  congr 1
  refine List.filter_congr fun e he => ?_
  rw [Bool.eq_iff_iff, List.isPrefixOf_iff_prefix, List.isPrefixOf_iff_prefix, h e he]

/-- A word that begins no other one is taken wherever it stands. -/
theorem longestAt?_append (he : e ∈ es) (hmax : ∀ f ∈ es, e.1 <+: f.1 → f = e) (t : Text) :
    longestAt? es (e.1 ++ t) = some e := by
  have hp : e.1 <+: e.1 ++ t := List.prefix_append e.1 t
  obtain ⟨f, hf⟩ : ∃ f, longestAt? es (e.1 ++ t) = some f :=
    Option.ne_none_iff_exists'.mp fun hnone => longestAt?_eq_none_iff.mp hnone e he hp
  have hfmem := mem_of_longestAt? hf
  have hprefix := List.prefix_of_prefix_length_le hp hfmem.2 (length_le_of_longestAt? hf he hp)
  rw [hf, hmax f hfmem.1 hprefix]

end

/-! ## The choice of an operator word -/

/-- The longest operator word at the head of a text, except for ลบ before วก. -/
def operatorAt? (t : Text) : Option Entry :=
  (longestAt? operators t).filter fun e =>
    !(e.1 == "ลบ".toList && "วก".toList.isPrefixOf (t.drop 2))

section
variable {e : Entry} {t u : Text}

theorem operatorAt?_eq_some_iff :
    operatorAt? t = some e ↔ longestAt? operators t = some e ∧
      ¬ (e.1 = "ลบ".toList ∧ "วก".toList <+: t.drop 2) := by
  rw [operatorAt?, Option.filter_eq_some_iff, Bool.not_eq_true', ← Bool.not_eq_true,
    Bool.and_eq_true, beq_iff_eq, List.isPrefixOf_iff_prefix]

theorem plus_mem_operators : ("บวก".toList, "+".toList) ∈ operators := List.mem_cons_self

theorem minus_mem_operators : ("ลบ".toList, "-".toList) ∈ operators :=
  List.mem_cons_of_mem _ List.mem_cons_self

theorem picks_longestAt? : Picks (longestAt? operators) := by
  intro t e h
  obtain ⟨he, hp⟩ := mem_of_longestAt? h
  exact ⟨(sound_of_mem (List.mem_append_right keywords he)).1, hp⟩

theorem picks_operatorAt? : Picks operatorAt? := by
  intro t e h
  exact picks_longestAt? t e (operatorAt?_eq_some_iff.mp h).1

theorem minus_plus_isPrefix_iff :
    "ลบวก".toList <+: t ↔ ∃ u, t = 'ล' :: ("บวก".toList ++ u) := by
  constructor
  · rintro ⟨u, rfl⟩
    exact ⟨u, by simp⟩
  · rintro ⟨u, rfl⟩
    exact ⟨u, by simp⟩

/-- The word for minus is passed over before what makes its last letter the first one of the word
for plus. -/
theorem isPrefix_of_minus (h : longestAt? operators t = some e) (hminus : e.1 = "ลบ".toList)
    (hbehind : "วก".toList <+: t.drop 2) : "ลบวก".toList <+: t := by
  obtain ⟨u, rfl⟩ := (mem_of_longestAt? h).2
  rw [hminus] at hbehind ⊢
  obtain ⟨v, hv⟩ := hbehind
  rw [minus_plus_isPrefix_iff]
  simp only [String.reduceToList, List.cons_append, List.nil_append, List.drop_succ_cons,
    List.drop_zero] at hv ⊢
  exact ⟨v, by rw [hv]⟩

theorem operatorAt?_eq_longestAt? (h : ¬ "ลบวก".toList <+: t) :
    operatorAt? t = longestAt? operators t := by
  refine Option.ext fun e => ?_
  rw [operatorAt?_eq_some_iff, and_iff_left_iff_imp]
  exact fun hlongest hexc => h (isPrefix_of_minus hlongest hexc.1 hexc.2)

theorem operatorAt?_of_minus (h : longestAt? operators t = some e) (hminus : e.1 = "ลบ".toList)
    (hbehind : "วก".toList <+: t.drop 2) : operatorAt? t = none := by
  refine Option.eq_none_iff_forall_ne_some.mpr fun f hf => ?_
  obtain ⟨hlongest, hnot⟩ := operatorAt?_eq_some_iff.mp hf
  rw [h] at hlongest
  obtain rfl := Option.some.inj hlongest
  exact hnot ⟨hminus, hbehind⟩

theorem operatorAt?_plus (t : Text) :
    operatorAt? ("บวก".toList ++ t) = some ("บวก".toList, "+".toList) := by
  have hmax : ∀ f ∈ operators, "บวก".toList <+: f.1 → f = ("บวก".toList, "+".toList) := by
    decide +kernel
  exact operatorAt?_eq_some_iff.mpr ⟨longestAt?_append plus_mem_operators hmax t, by simp⟩

end

/-! ## Passes and reading agree -/

theorem inert_of_sound {es : List Entry} (h : ∀ e ∈ es, Sound e) : Inert es where
  word e he := by
    obtain ⟨c, w, hw⟩ := List.exists_cons_of_ne_nil (h e he).1
    refine ⟨c, w, hw, fun f hf hc => ?_⟩
    have hthai := (h e he).2.2.1 c (by rw [hw]; exact List.mem_cons_self)
    exact List.countP_eq_zero.mp (h f hf).countP_new c hc hthai
  new e he := by
    obtain ⟨c, v, hv⟩ := List.exists_cons_of_ne_nil (h e he).2.1
    refine ⟨c, v, hv, fun f hf hc => ?_⟩
    have hthai := (h f hf).2.2.1 c hc
    exact List.countP_eq_zero.mp (h e he).countP_new c (by rw [hv]; exact List.mem_cons_self) hthai

theorem inert_operators : Inert (longestFirst operators) :=
  inert_of_sound fun _ => sound_of_mem_operators

/-- A word reaches into one that is tried after it only as บวก does into ลบ. -/
theorem overlaps : (longestFirst operators).Pairwise fun f e => ∀ b ∈ e.1.tails, b ≠ [] →
    ¬ f.1 <+: b ∧ (b ≠ e.1 → b <+: f.1 →
      f.1 = "บวก".toList ∧ e.1 = "ลบ".toList ∧ b = "บ".toList) := by
  decide +kernel

/-- No word that is tried before the chosen one begins in it. -/
theorem apart_of_operatorAt? {before after : List Entry} {e : Entry} {t : Text}
    (hes : longestFirst operators = before ++ e :: after) (h : operatorAt? (e.1 ++ t) = some e) :
    Apart before e.1 t := by
  obtain ⟨hlongest, hexc⟩ := operatorAt?_eq_some_iff.mp h
  intro f hf b hb hsuf hp
  have hpairs := overlaps
  rw [hes, List.pairwise_append] at hpairs
  obtain ⟨hnot, hreach⟩ :=
    hpairs.2.2 f hf e List.mem_cons_self b ((List.mem_tails b e.1).mpr hsuf) hb
  by_cases hwhole : b = e.1
  · subst hwhole
    have hmem : f ∈ operators := mem_longestFirst_operators.mp (by simp [hes, hf])
    have hle := length_le_of_longestAt? hlongest hmem hp
    exact hnot (List.prefix_of_prefix_length_le hp (List.prefix_append e.1 t) hle)
  · rcases List.prefix_or_prefix_of_prefix hp (List.prefix_append b t) with hin | hout
    · exact hnot hin
    · obtain ⟨hplus, hminus, rfl⟩ := hreach hwhole hout
      rw [hplus] at hp
      have hbehind : "วก".toList <+: t := by simpa using hp
      rw [hminus] at hexc
      exact hexc ⟨rfl, hbehind⟩

/-- In ลบวก the word for plus is replaced, and ลบ is lost. -/
theorem replaceEach_minus_plus (t : Text) :
    replaceEach (longestFirst operators) ('ล' :: ("บวก".toList ++ t)) =
      'ล' :: replaceEach (longestFirst operators) ("บวก".toList ++ t) := by
  -- ลบ is tried last
  have hlast : longestFirst operators =
      (longestFirst operators).dropLast ++ [("ลบ".toList, "-".toList)] := by decide +kernel
  have hplus : ("บวก".toList, "+".toList) ∈ (longestFirst operators).dropLast := by decide +kernel
  have hhead : ∀ e ∈ (longestFirst operators).dropLast, e.1.head? ≠ some 'ล' := by decide +kernel
  have hinert : Inert (longestFirst operators).dropLast :=
    inert_operators.mono fun e he => List.mem_of_mem_dropLast he
  generalize hinit : (longestFirst operators).dropLast = init at hlast hplus hhead hinert
  obtain ⟨before, after, hcut⟩ := List.append_of_mem hplus
  have hes : longestFirst operators = before ++ ("บวก".toList, "+".toList) ::
      (after ++ [("ลบ".toList, "-".toList)]) := by rw [hlast, hcut]; simp
  have hpass : replaceEach init ("บวก".toList ++ t) = "+".toList ++ replaceEach init t :=
    replaceEach_word_append hinert hcut (apart_of_operatorAt? hes (operatorAt?_plus t))
  have hkeep : replaceEach init ('ล' :: ("บวก".toList ++ t)) =
      'ล' :: replaceEach init ("บวก".toList ++ t) := by
    refine replaceEach_cons_of_not_isPrefix hinert fun e he hp => hhead e he ?_
    obtain ⟨c, w, hw, -⟩ := hinert.word e he
    rw [hw] at hp ⊢
    rw [(List.cons_prefix_cons.mp hp).1]
    rfl
  have hnot : ¬ "ลบ".toList <+: 'ล' :: ("+".toList ++ replaceEach init t) := by simp
  rw [hlast, replaceEach_append_table, replaceEach_append_table, hkeep, hpass]
  exact replaceAll_cons_of_not_isPrefix hnot

end ThaiScript.Lexicon

namespace ThaiScript

open Text Lexicon

theorem applyOperators_eq_replaceEach :
    applyOperators = replaceEach (longestFirst operators) := rfl

theorem applyOperators_eq_replaceBy (t : Text) : applyOperators t = replaceBy operatorAt? t := by
  rw [applyOperators_eq_replaceEach]
  refine eq_replaceBy picks_operatorAt? (replaceEach_nil _) (fun e t h => ?_) (fun c t h => ?_) t
  · have hmem :=
      mem_longestFirst_operators.mpr (mem_of_longestAt? (operatorAt?_eq_some_iff.mp h).1).1
    obtain ⟨before, after, hes⟩ := List.append_of_mem hmem
    exact replaceEach_word_append inert_operators hes (apart_of_operatorAt? hes h)
  · by_cases hexc : "ลบวก".toList <+: c :: t
    · obtain ⟨u, hu⟩ := minus_plus_isPrefix_iff.mp hexc
      rw [(List.cons.inj hu).1, (List.cons.inj hu).2]
      exact replaceEach_minus_plus u
    · rw [operatorAt?_eq_longestAt? hexc, longestAt?_eq_none_iff] at h
      exact replaceEach_cons_of_not_isPrefix inert_operators fun e he =>
        h e (mem_longestFirst_operators.mp he)

namespace Lexicon

/-! ## The longest word everywhere -/

theorem minus_plus_not_within {e : Entry} (he : e ∈ operators) :
    ∀ b ∈ e.1.tails, b ≠ [] → ¬ "ลบวก".toList <+: b ∧
      (b <+: "ลบวก".toList → e.1 = "ลบ".toList ∧ b = "ลบ".toList) := by
  have hall : ∀ e ∈ operators, ∀ b ∈ e.1.tails, b ≠ [] → ¬ "ลบวก".toList <+: b ∧
      (b <+: "ลบวก".toList → e.1 = "ลบ".toList ∧ b = "ลบ".toList) := by decide +kernel
  exact hall e he

/-- A word that is taken holds no part of ลบวก. -/
theorem minus_plus_isInfix_of_append {e : Entry} {t : Text} (h : operatorAt? (e.1 ++ t) = some e)
    (hw : "ลบวก".toList <:+: e.1 ++ t) : "ลบวก".toList <:+: t := by
  obtain ⟨hlongest, hexc⟩ := operatorAt?_eq_some_iff.mp h
  refine isInfix_of_append (fun b hb hsuf hp => ?_) hw
  obtain ⟨hnot, hminus⟩ :=
    minus_plus_not_within (mem_of_longestAt? hlongest).1 b ((List.mem_tails b e.1).mpr hsuf) hb
  rcases List.prefix_or_prefix_of_prefix hp (List.prefix_append b t) with hin | hout
  · exact hnot hin
  · obtain ⟨he, rfl⟩ := hminus hout
    have hbehind : "วก".toList <+: t := by simpa using hp
    rw [he] at hexc
    exact hexc ⟨rfl, hbehind⟩

/-- Taking the longest word at each place goes wrong in ลบวก, and nowhere else. -/
theorem replaceBy_eq_iff (t : Text) :
    replaceBy operatorAt? t = replaceBy (longestAt? operators) t ↔ ¬ "ลบวก".toList <:+: t := by
  constructor
  · intro h hin
    induction t using picking_induction picks_longestAt? with
    | nil => simp at hin
    | word e t he ih =>
      rw [replaceBy_word_append picks_longestAt? he] at h
      by_cases hexc : e.1 = "ลบ".toList ∧ "วก".toList <+: (e.1 ++ t).drop 2
      · -- one reading keeps the first letter, the other one writes a sign
        have hnone := operatorAt?_of_minus he hexc.1 hexc.2
        have hsign : ∀ e ∈ operators, e.1 = "ลบ".toList → e.2 = "-".toList := by decide +kernel
        rw [hsign e (mem_of_longestAt? he).1 hexc.1, hexc.1] at h
        rw [hexc.1] at hnone
        simp only [String.reduceToList, List.cons_append, List.nil_append] at h hnone
        rw [replaceBy_cons hnone] at h
        simp at h
      · have hsame := operatorAt?_eq_some_iff.mpr ⟨he, hexc⟩
        rw [replaceBy_word_append picks_operatorAt? hsame, List.append_right_inj] at h
        exact ih h (minus_plus_isInfix_of_append hsame hin)
    | keep c t hc ih =>
      have hno := longestAt?_eq_none_iff.mp hc
      have hminus : ¬ "ลบวก".toList <+: c :: t := fun hp =>
        hno _ minus_mem_operators ((by decide : "ลบ".toList <+: "ลบวก".toList).trans hp)
      have hnone := (operatorAt?_eq_longestAt? hminus).trans hc
      rw [replaceBy_cons hc, replaceBy_cons hnone, List.cons_inj_right] at h
      exact ih h ((List.infix_cons_iff.mp hin).resolve_left hminus)
  · intro h
    refine replaceBy_congr picks_operatorAt? picks_longestAt? fun b hb => ?_
    exact operatorAt?_eq_longestAt? fun hp => h (hp.isInfix.trans hb.isInfix)

/-! ## Words that are replaced whole -/

/-- An operator word that begins no longer one, and that no other one reaches into from before. -/
structure Whole (e : Entry) : Prop where
  mem : e ∈ operators
  longest : ∀ f ∈ operators, e.1 <+: f.1 → f = e
  unreached : ∀ f ∈ operators, ∀ z ∈ f.1.tails, z ≠ f.1 → z ≠ [] → ¬ z <+: e.1 ∧ ¬ e.1 <+: z
  ne_minus : e.1 ≠ "ลบ".toList
  head_not_mem : e.1.head? ∉ "วก".toList.map some

instance (e : Entry) : Decidable (Whole e) :=
  decidable_of_iff (e ∈ operators ∧ (∀ f ∈ operators, e.1 <+: f.1 → f = e) ∧
    (∀ f ∈ operators, ∀ z ∈ f.1.tails, z ≠ f.1 → z ≠ [] → ¬ z <+: e.1 ∧ ¬ e.1 <+: z) ∧
    e.1 ≠ "ลบ".toList ∧ e.1.head? ∉ "วก".toList.map some)
    ⟨fun ⟨h1, h2, h3, h4, h5⟩ => ⟨h1, h2, h3, h4, h5⟩,
      fun ⟨h1, h2, h3, h4, h5⟩ => ⟨h1, h2, h3, h4, h5⟩⟩

/-- Words of comparison that hold a shorter operator word. -/
def comparisons : List Entry := [
  ("มากกว่าเท่ากับ", ">="),
  ("น้อยกว่าเท่ากับ", "<="),
  ("ไม่เท่ากับ", "!=")]

theorem whole_of_mem_comparisons {e : Entry} (h : e ∈ comparisons) : Whole e := by
  have hall : ∀ e ∈ comparisons, Whole e := by decide +kernel
  exact hall e h

namespace Whole

variable {e f : Entry} (h : Whole e) {a b t : Text}
include h

theorem operatorAt?_append (t : Text) : operatorAt? (e.1 ++ t) = some e :=
  operatorAt?_eq_some_iff.mpr
    ⟨longestAt?_append h.mem h.longest t, fun hexc => h.ne_minus hexc.1⟩

/-- A word that begins before it ends before it. -/
theorem isPrefix_append_iff (hf : f ∈ operators) (hb : b ≠ []) :
    f.1 <+: b ++ (e.1 ++ t) ↔ f.1 <+: b := by
  refine ⟨fun hp => ?_, fun hp => hp.trans (List.prefix_append b _)⟩
  rcases List.prefix_or_prefix_of_prefix hp (List.prefix_append b _) with hin | ⟨z, hz⟩
  · exact hin
  · by_cases hnil : z = []
    · rw [← hz, hnil, List.append_nil]
    · have hsuf : z ∈ f.1.tails := (List.mem_tails z f.1).mpr ⟨b, hz⟩
      have hne : z ≠ f.1 := fun heq => hb (by simpa [heq] using hz)
      obtain ⟨hover, hunder⟩ := h.unreached f hf z hsuf hne hnil
      rw [← hz, List.prefix_append_right_inj] at hp
      rcases List.prefix_or_prefix_of_prefix hp (List.prefix_append e.1 t) with hin | hout
      · exact absurd hin hover
      · exact absurd hout hunder

theorem operatorAt?_append_append (hb : b ≠ []) :
    operatorAt? (b ++ (e.1 ++ t)) = operatorAt? b := by
  have hlongest : longestAt? operators (b ++ (e.1 ++ t)) = longestAt? operators b :=
    longestAt?_congr fun f hf => h.isPrefix_append_iff hf hb
  refine Option.ext fun f => ?_
  rw [operatorAt?_eq_some_iff, operatorAt?_eq_some_iff, hlongest]
  refine and_congr_right fun hf => not_congr (and_congr_right fun hminus => ?_)
  obtain ⟨y, rfl⟩ := (mem_of_longestAt? hf).2
  obtain ⟨c, w, hw⟩ := List.exists_cons_of_ne_nil (picks_operatorAt? _ _ (h.operatorAt?_append t)).1
  have hc : c ∉ "วก".toList := fun hc => h.head_not_mem (by rw [hw]; exact List.mem_map_of_mem hc)
  have hdrop (x : Text) : (f.1 ++ x).drop 2 = x := by rw [hminus]; simp
  rw [List.append_assoc, hdrop, hdrop, hw, List.cons_append]
  exact prefix_append_cons_iff hc

/-- It becomes what stands for it in every context, and parts what stands around it. -/
theorem applyOperators_append (a t : Text) :
    applyOperators (a ++ (e.1 ++ t)) = applyOperators a ++ (e.2 ++ applyOperators t) := by
  rw [applyOperators_eq_replaceBy, applyOperators_eq_replaceBy, applyOperators_eq_replaceBy,
    replaceBy_append picks_operatorAt? fun b hb _ => h.operatorAt?_append_append hb,
    replaceBy_word_append picks_operatorAt? (h.operatorAt?_append t)]

end Whole

end Lexicon

/-- Replacing the operator words one after the other is one reading from the left, which takes the
longest word at each place, except for ลบ before วก. No operator word is left. Without the exception
the reading gives the same just for texts in which ลบวก does not occur. Words of comparison that
hold a shorter operator word are replaced whole wherever they stand. -/
theorem applyOperators_eq_reading (t : Text) :
    applyOperators t = replaceBy operatorAt? t ∧
    (∀ e ∈ operators, ¬ e.1 <:+: applyOperators t) ∧
    (applyOperators t = replaceBy (longestAt? operators) t ↔ ¬ "ลบวก".toList <:+: t) ∧
    ∀ e ∈ comparisons, ∀ a b,
      applyOperators (a ++ (e.1 ++ b)) = applyOperators a ++ (e.2 ++ applyOperators b) := by
  refine ⟨applyOperators_eq_replaceBy t, fun e he => not_isInfix_applyOperators he t, ?_,
    fun e he => (whole_of_mem_comparisons he).applyOperators_append⟩
  rw [applyOperators_eq_replaceBy, replaceBy_eq_iff]

/-- In ลบวก the sign of plus is written, and ไม่เท่ากับ is replaced before วก, whose letters would
end another word. -/
theorem applyOperators_eq_reading_minus_plus :
    applyOperators "ลบวกไม่เท่ากับวก".toList = "ล+!=วก".toList ∧
    applyOperators "ลบวกไม่เท่ากับวก".toList ≠
      replaceBy (longestAt? operators) "ลบวกไม่เท่ากับวก".toList := by
  obtain ⟨hread, -, hlongest, -⟩ := applyOperators_eq_reading "ลบวกไม่เท่ากับวก".toList
  refine ⟨hread.trans (by decide +kernel), fun h => ?_⟩
  exact hlongest.mp h (by decide +kernel)

end ThaiScript
