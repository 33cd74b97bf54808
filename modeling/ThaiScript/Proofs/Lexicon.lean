import Mathlib.Logic.Relation
import ThaiScript.Proofs.LongestFirst
import ThaiScript.Proofs.Replacement
import ThaiScript.Proofs.WordChar
import ThaiScript.Substitution

/-!
# What the lexicon does to a text

`Lexicon.Step t u`: one entry of the lexicon rewrites `t` to `u`. `applyLexicon` is a chain of such
steps, so it keeps what every step keeps: which neutral characters stand in a text, and that the
text is empty. A neutral character is no word character and no symbol of an operator. Every
character that is no word character cuts a text into parts that are translated apart,
`applyLexicon_append_cons`.
-/

namespace ThaiScript

namespace Lexicon

/-! ## The entries -/

/-- Thai letters, vowel signs and tone marks. -/
def thaiRanges : List (Nat × Nat) := [(0xE01, 0xE3A), (0xE40, 0xE4E)]

def isThai (c : Char) : Bool := inRanges thaiRanges c.toNat

/-- The letters of ASCII. -/
def letterRanges : List (Nat × Nat) := [(0x41, 0x5A), (0x61, 0x7A)]

def isLetter (c : Char) : Bool := inRanges letterRanges c.toNat

/-- The characters that operators are written with. -/
def symbols : Text := "+-*/=!<>"

/-- Words are Thai, and what stands for them is written in letters and symbols. -/
def Sound (e : Entry) : Prop :=
  e.1 ≠ [] ∧ e.2 ≠ [] ∧ (∀ c ∈ e.1, isThai c = true) ∧ ∀ c ∈ e.2, isLetter c = true ∨ c ∈ symbols

instance (e : Entry) : Decidable (Sound e) :=
  decidable_of_iff (e.1 ≠ [] ∧ e.2 ≠ [] ∧ e.1.all isThai = true ∧
    e.2.all (fun c => isLetter c || decide (c ∈ symbols)) = true) (by simp [Sound])

def entries : List Entry := keywords ++ operators

theorem sound_of_mem {e : Entry} (h : e ∈ entries) : Sound e := by
  have hall : ∀ e ∈ entries, Sound e := by decide +kernel
  exact hall e h

theorem isWordChar_of_isThai {c : Char} (h : isThai c = true) : Text.isWordChar c = true :=
  Text.isWordChar_of_inRanges (by decide) h

theorem isWordChar_of_isLetter {c : Char} (h : isLetter c = true) : Text.isWordChar c = true :=
  Text.isWordChar_of_inRanges (by decide) h

theorem isThai_eq_false {c : Char} (h : c.toNat < 0xE01 ∨ 0xE4E < c.toNat) : isThai c = false := by
  refine Bool.eq_false_iff.mpr fun ht => ?_
  obtain ⟨r, hr, hlo, hhi⟩ := exists_of_inRanges ht
  simp only [thaiRanges, List.mem_cons, List.not_mem_nil, or_false] at hr
  rcases hr with rfl | rfl <;> simp only at hlo hhi <;> omega

theorem isThai_of_isLetter {c : Char} (h : isLetter c = true) : isThai c = false := by
  obtain ⟨r, hr, hlo, hhi⟩ := exists_of_inRanges h
  simp only [letterRanges, List.mem_cons, List.not_mem_nil, or_false] at hr
  apply isThai_eq_false
  rcases hr with rfl | rfl <;> simp only at hlo hhi <;> omega

theorem isThai_of_mem_symbols {c : Char} (h : c ∈ symbols) : isThai c = false := by
  have hall : symbols.all (fun c => !isThai c) = true := by decide
  simpa using List.all_eq_true.mp hall c h

theorem toNat_lt_of_mem_symbols {c : Char} (h : c ∈ symbols) : c.toNat < 0x80 := by
  have hall : symbols.all (fun c => decide (c.toNat < 0x80)) = true := by decide
  simpa using List.all_eq_true.mp hall c h

/-- A character that ends every word and that no entry takes away or writes. -/
def Neutral (c : Char) : Prop := Text.isWordChar c = false ∧ c ∉ symbols

instance (c : Char) : Decidable (Neutral c) := inferInstanceAs (Decidable (_ ∧ _))

namespace Sound

variable {e : Entry}

theorem isWordChar_of_mem_word (h : Sound e) {c : Char} (hc : c ∈ e.1) :
    Text.isWordChar c = true := isWordChar_of_isThai (h.2.2.1 c hc)

theorem not_mem_word (h : Sound e) {c : Char} (hc : Text.isWordChar c = false) : c ∉ e.1 := by
  intro hm
  have hw := h.isWordChar_of_mem_word hm
  rw [hc] at hw
  cases hw

theorem not_mem_new (h : Sound e) {c : Char} (hc : Neutral c) : c ∉ e.2 := by
  intro hm
  rcases h.2.2.2 c hm with hl | hs
  · have hw := isWordChar_of_isLetter hl
    rw [hc.1] at hw
    cases hw
  · exact hc.2 hs

theorem countP_word_pos (h : Sound e) : 0 < e.1.countP isThai := by
  obtain ⟨c, w, hw⟩ := List.exists_cons_of_ne_nil h.1
  have hc : c ∈ e.1 := by rw [hw]; exact List.mem_cons_self
  exact List.countP_pos_iff.mpr ⟨c, hc, h.2.2.1 c hc⟩

theorem countP_new (h : Sound e) : e.2.countP isThai = 0 := by
  refine List.countP_eq_zero.mpr fun c hc => ?_
  rcases h.2.2.2 c hc with hl | hs
  · simp [isThai_of_isLetter hl]
  · simp [isThai_of_mem_symbols hs]

end Sound

theorem sound_of_mem_keywords {e : Entry} (h : e ∈ longestFirst keywords) : Sound e :=
  sound_of_mem (List.mem_append_left _ ((longestFirst_perm keywords).mem_iff.mp h))

theorem sound_of_mem_operators {e : Entry} (h : e ∈ longestFirst operators) : Sound e :=
  sound_of_mem (List.mem_append_right _ ((longestFirst_perm operators).mem_iff.mp h))

/-! ## Steps -/

/-- An entry rewrites `t` to `u`. -/
def Step (t u : Text) : Prop := ∃ e : Entry, Sound e ∧ Text.Rewrites e.1 e.2 t u

/-- Passes that each are a step make a chain of steps. -/
theorem steps_foldl {pass : Text → Entry → Text} {es : List Entry}
    (h : ∀ e ∈ es, ∀ t, Step t (pass t e)) (t : Text) :
    Relation.ReflTransGen Step t (es.foldl pass t) := by
  induction es generalizing t with
  | nil => exact .refl
  | cons e es ih =>
    have hhead := h e List.mem_cons_self t
    have htail := ih (fun f hf => h f (List.mem_cons_of_mem e hf)) (pass t e)
    exact .head hhead htail

/-- A text that changes loses Thai letters. -/
theorem eq_or_countP_lt_of_steps {t u : Text} (h : Relation.ReflTransGen Step t u) :
    u = t ∨ u.countP isThai < t.countP isThai := by
  induction h with
  | refl => exact .inl rfl
  | tail _ hs ih =>
    obtain ⟨e, he, hr⟩ := hs
    rcases hr.eq_or_countP_lt he.countP_word_pos he.countP_new with rfl | hlt
    · exact ih
    · right
      rcases ih with rfl | ih
      · exact hlt
      · exact hlt.trans ih

theorem eq_of_steps {t u : Text} (h : Relation.ReflTransGen Step t u)
    (ht : t.countP isThai = 0) : u = t := by
  rcases eq_or_countP_lt_of_steps h with heq | hlt
  · exact heq
  · omega

/-- What cuts a text for every pass cuts it for all of them. -/
theorem foldl_append_cons {pass : Text → Entry → Text} {es : List Entry} {c : Char}
    (h : ∀ e ∈ es, ∀ a t, pass (a ++ c :: t) e = pass a e ++ c :: pass t e) (a t : Text) :
    es.foldl pass (a ++ c :: t) = es.foldl pass a ++ c :: es.foldl pass t := by
  induction es generalizing a t with
  | nil => rfl
  | cons e es ih =>
    rw [List.foldl_cons, h e List.mem_cons_self,
      ih fun f hf => h f (List.mem_cons_of_mem e hf)]
    rfl

end Lexicon

open Lexicon

theorem applyKeywords_steps (t : Text) : Relation.ReflTransGen Step t (applyKeywords t) :=
  steps_foldl (fun e he t =>
    ⟨e, sound_of_mem_keywords he, Text.replaceWhole_rewrites (sound_of_mem_keywords he).1 e.2 t⟩) t

theorem applyOperators_steps (t : Text) : Relation.ReflTransGen Step t (applyOperators t) :=
  steps_foldl (fun e he t =>
    ⟨e, sound_of_mem_operators he, Text.replaceAll_rewrites (sound_of_mem_operators he).1 e.2 t⟩) t

theorem applyLexicon_steps (t : Text) : Relation.ReflTransGen Step t (applyLexicon t) :=
  (applyKeywords_steps t).trans (applyOperators_steps (applyKeywords t))

/-- What every step keeps, the lexicon keeps. -/
theorem applyLexicon_invariant {α : Sort*} {f : Text → α} (h : ∀ t u, Step t u → f u = f t)
    (t : Text) : f (applyLexicon t) = f t := by
  have hsteps := applyLexicon_steps t
  generalize applyLexicon t = u at hsteps ⊢
  induction hsteps with
  | refl => rfl
  | tail _ hs ih => rw [h _ _ hs, ih]

theorem mem_applyLexicon_iff {c : Char} (hc : Neutral c) (t : Text) :
    c ∈ applyLexicon t ↔ c ∈ t :=
  iff_of_eq <| applyLexicon_invariant (f := fun t => c ∈ t)
    (fun _ _ ⟨_, he, hr⟩ => propext (hr.mem_iff (he.not_mem_word hc.1) (he.not_mem_new hc))) t

theorem applyLexicon_eq_nil_iff (t : Text) : applyLexicon t = [] ↔ t = [] :=
  iff_of_eq <| applyLexicon_invariant (f := fun t => t = [])
    (fun _ _ ⟨_, he, hr⟩ => propext (hr.eq_nil_iff he.1 he.2.1)) t

theorem applyLexicon_eq_or_countP_lt (t : Text) :
    applyLexicon t = t ∨ (applyLexicon t).countP isThai < t.countP isThai :=
  eq_or_countP_lt_of_steps (applyLexicon_steps t)

theorem applyLexicon_eq_self {t : Text} (h : t.countP isThai = 0) : applyLexicon t = t :=
  eq_of_steps (applyLexicon_steps t) h

/-! ## Parts that are translated apart -/

section
variable {c : Char} (hc : Text.isWordChar c = false)
include hc

theorem applyKeywords_append_cons (a t : Text) :
    applyKeywords (a ++ c :: t) = applyKeywords a ++ c :: applyKeywords t :=
  foldl_append_cons (fun e he a t =>
    have hs := sound_of_mem_keywords he
    Text.replaceWhole_append_cons hs.1 (hs.not_mem_word hc) hc e.2 a t) a t

theorem applyOperators_append_cons (a t : Text) :
    applyOperators (a ++ c :: t) = applyOperators a ++ c :: applyOperators t :=
  foldl_append_cons (fun e he a t =>
    have hs := sound_of_mem_operators he
    Text.replaceAll_append_cons hs.1 (hs.not_mem_word hc) e.2 a t) a t

theorem applyLexicon_append_cons (a t : Text) :
    applyLexicon (a ++ c :: t) = applyLexicon a ++ c :: applyLexicon t := by
  unfold applyLexicon
  rw [applyKeywords_append_cons hc, applyOperators_append_cons hc]

end

end ThaiScript
