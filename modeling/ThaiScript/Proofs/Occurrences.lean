import ThaiScript.Proofs.Lexicon

/-!
# What is left of words

`Rewritten es t u`: `u` is `t` with occurrences of words of several entries replaced. Nothing that is
written holds a Thai letter, so the Thai letters of `u` are letters of `t`, and a rewriting falls
apart at each of them, `Rewritten.of_append_cons`. Hence no pass makes a word occur that did not
occur before it, passes in a row are one rewriting, and when all operator words were replaced none
is left: `not_isInfix_applyOperators`.
-/

namespace ThaiScript.Lexicon

open Text

/-! ## Rewriting with several entries -/

/-- `u` is `t` with occurrences of words of `es` replaced by what stands for them. -/
inductive Rewritten (es : List Entry) : Text → Text → Prop where
  | nil : Rewritten es [] []
  | hit {e : Entry} {t u : Text} : e ∈ es → Rewritten es t u → Rewritten es (e.1 ++ t) (e.2 ++ u)
  | keep (c : Char) {t u : Text} : Rewritten es t u → Rewritten es (c :: t) (c :: u)

namespace Rewritten

variable {es : List Entry} {t u v : Text}

theorem of_rewrites {e : Entry} (he : e ∈ es) (h : Rewrites e.1 e.2 t u) : Rewritten es t u := by
  induction h with
  | nil => exact .nil
  | hit _ ih => exact .hit he ih
  | keep c _ ih => exact .keep c ih

theorem refl (es : List Entry) (t : Text) : Rewritten es t t := by
  induction t with
  | nil => exact .nil
  | cons c t ih => exact .keep c ih

theorem append_left (a : Text) (h : Rewritten es t u) : Rewritten es (a ++ t) (a ++ u) := by
  induction a with
  | nil => exact h
  | cons c a ih => exact .keep c ih

section
variable (hes : ∀ e ∈ es, Sound e)
include hes

theorem eq_nil (h : Rewritten es t []) : t = [] := by
  generalize hu : ([] : Text) = u at h
  cases h with
  | nil => rfl
  | hit he _ => exact absurd (List.append_eq_nil_iff.mp hu.symm).1 (hes _ he).2.1
  | keep c _ => cases hu

/-- A Thai letter of the result is one of the text, and cuts the rewriting in two. -/
theorem of_append_cons {c : Char} (hc : isThai c = true) {a : Text}
    (h : Rewritten es t (a ++ c :: u)) :
    ∃ b s, t = b ++ c :: s ∧ Rewritten es b a ∧ Rewritten es s u := by
  generalize hw : a ++ c :: u = w at h
  induction h generalizing a with
  | nil => simp at hw
  | @hit e t w he h ih =>
    have hout : c ∉ e.2 := by
      intro hm
      have hpos := List.countP_pos_iff.mpr ⟨c, hm, hc⟩
      rw [(hes e he).countP_new] at hpos
      cases hpos
    rcases List.append_eq_append_iff.mp hw with ⟨r, hr, hrest⟩ | ⟨r, rfl, hrest⟩
    · cases r with
      | nil =>
        rw [List.append_nil] at hr
        obtain ⟨b, s, rfl, hb, hs⟩ := ih (a := []) hrest
        rw [eq_nil hes hb]
        subst hr
        refine ⟨e.1, s, rfl, ?_, hs⟩
        simpa using Rewritten.hit he .nil
      | cons d r =>
        rw [List.cons_append, List.cons.injEq] at hrest
        obtain ⟨rfl, -⟩ := hrest
        rw [hr] at hout
        simp at hout
    · obtain ⟨b, s, rfl, hb, hs⟩ := ih hrest.symm
      exact ⟨e.1 ++ b, s, by rw [List.append_assoc], .hit he hb, hs⟩
  | keep d h ih =>
    cases a with
    | nil =>
      obtain ⟨rfl, rfl⟩ := List.cons.inj hw
      exact ⟨[], _, rfl, .nil, h⟩
    | cons x a =>
      obtain ⟨rfl, hrest⟩ := List.cons.inj hw
      obtain ⟨b, s, rfl, hb, hs⟩ := ih hrest
      exact ⟨x :: b, s, rfl, .keep x hb, hs⟩

section
variable {w : Text} (hw : ∀ c ∈ w, isThai c = true)
include hw

theorem of_append (h : Rewritten es t (w ++ u)) : ∃ s, t = w ++ s ∧ Rewritten es s u := by
  induction w generalizing t with
  | nil => exact ⟨t, rfl, h⟩
  | cons c w ih =>
    obtain ⟨b, s, rfl, hb, hs⟩ := of_append_cons hes (hw c List.mem_cons_self) (a := []) h
    obtain ⟨r, rfl, hr⟩ := ih (fun d hd => hw d (List.mem_cons_of_mem c hd)) hs
    rw [eq_nil hes hb]
    exact ⟨r, rfl, hr⟩

/-- Thai letters that stand together in the result do so in the text. -/
theorem of_append_append (hne : w ≠ []) {a : Text} (h : Rewritten es t (a ++ (w ++ u))) :
    ∃ b s, t = b ++ (w ++ s) ∧ Rewritten es b a ∧ Rewritten es s u := by
  obtain ⟨c, w, rfl⟩ := List.exists_cons_of_ne_nil hne
  rw [List.cons_append] at h
  obtain ⟨b, s, rfl, hb, hs⟩ := of_append_cons hes (hw c List.mem_cons_self) h
  obtain ⟨r, rfl, hr⟩ := of_append hes (fun d hd => hw d (List.mem_cons_of_mem c hd)) hs
  exact ⟨b, r, rfl, hb, hr⟩

theorem isInfix_of_isInfix (hne : w ≠ []) (h : Rewritten es t u) (hu : w <:+: u) : w <:+: t := by
  obtain ⟨a, b, rfl⟩ := hu
  rw [List.append_assoc] at h
  obtain ⟨r, s, rfl, -, -⟩ := of_append_append hes hw hne h
  exact ⟨r, s, by rw [List.append_assoc]⟩

end

/-- What holds no Thai letter is not rewritten. -/
theorem of_append_left {a : Text} (ha : ∀ c ∈ a, isThai c = false)
    (h : Rewritten es (a ++ t) v) : ∃ u, v = a ++ u ∧ Rewritten es t u := by
  induction a generalizing v with
  | nil => exact ⟨v, rfl, h⟩
  | cons c a ih =>
    generalize hw : c :: a ++ t = w at h
    cases h with
    | nil => cases hw
    | @hit e s u he h =>
      obtain ⟨d, word, hd⟩ := List.exists_cons_of_ne_nil (hes e he).1
      rw [hd, List.cons_append, List.cons_append, List.cons.injEq] at hw
      have hthai := (hes e he).2.2.1 d (by rw [hd]; exact List.mem_cons_self)
      rw [← hw.1, ha c List.mem_cons_self] at hthai
      cases hthai
    | keep d h =>
      obtain ⟨rfl, rfl⟩ := List.cons.inj hw
      obtain ⟨u, rfl, hu⟩ := ih (fun e he => ha e (List.mem_cons_of_mem c he)) h
      exact ⟨u, rfl, hu⟩

/-- Two rewritings in a row are one: the second finds its words in what the first has left. -/
theorem trans (h1 : Rewritten es t u) (h2 : Rewritten es u v) : Rewritten es t v := by
  induction h2 generalizing t with
  | nil =>
    obtain rfl := eq_nil hes h1
    exact h1
  | @hit e u v he _ ih =>
    obtain ⟨s, rfl, hs⟩ := of_append hes (hes e he).2.2.1 h1
    exact .hit he (ih hs)
  | @keep c u v _ ih =>
    generalize hw : c :: u = w at h1
    cases h1 with
    | nil => cases hw
    | @hit e s r he h =>
      have hnew : ∀ d ∈ e.2, isThai d = false := by
        simpa using List.countP_eq_zero.mp (hes e he).countP_new
      obtain ⟨d, new, hd⟩ := List.exists_cons_of_ne_nil (hes e he).2.1
      rw [hd, List.cons_append, List.cons.injEq] at hw
      obtain ⟨rfl, rfl⟩ := hw
      obtain ⟨v, rfl, hv⟩ := of_append_left hes
        (fun x hx => hnew x (by rw [hd]; exact List.mem_cons_of_mem c hx)) (ih (append_left new h))
      have hhit := Rewritten.hit he hv
      rwa [hd] at hhit
    | keep d h =>
      obtain ⟨rfl, rfl⟩ := List.cons.inj hw
      exact .keep c (ih h)

end

end Rewritten

/-! ## Words that are left -/

theorem isInfix_of_isInfix_append {w a t : Text} (hne : w ≠ []) (hw : ∀ c ∈ w, isThai c = true)
    (ha : ∀ c ∈ a, isThai c = false) (h : w <:+: a ++ t) : w <:+: t := by
  induction a with
  | nil => exact h
  | cons c a ih =>
    rcases List.infix_cons_iff.mp h with h | h
    · obtain ⟨d, w, rfl⟩ := List.exists_cons_of_ne_nil hne
      obtain rfl := (List.cons_prefix_cons.mp h).1
      have hthai := hw d List.mem_cons_self
      rw [ha d List.mem_cons_self] at hthai
      cases hthai
    · exact ih (fun d hd => ha d (List.mem_cons_of_mem c hd)) h

/-- A pass leaves no occurrence of its word. -/
theorem not_isInfix_replaceAll {e : Entry} (he : Sound e) (t : Text) :
    ¬ e.1 <:+: replaceAll e.1 e.2 t := by
  have hnew : ∀ c ∈ e.2, isThai c = false := by simpa using List.countP_eq_zero.mp he.countP_new
  induction t using occurrence_induction he.1 with
  | nil => simpa using he.1
  | hit u ih =>
    rw [replaceAll_word_append he.1]
    exact fun h => ih (isInfix_of_isInfix_append he.1 he.2.2.1 hnew h)
  | keep c u hp ih =>
    rw [replaceAll_cons_of_not_isPrefix hp]
    intro h
    rcases List.infix_cons_iff.mp h with h | h
    · -- the word would stand at the head of the text, where the pass does not find it
      obtain ⟨v, hv⟩ := h
      have hpass := replaceAll_rewrites he.1 e.2 (c :: u)
      rw [replaceAll_cons_of_not_isPrefix hp, ← hv] at hpass
      obtain ⟨s, hs, -⟩ := (Rewritten.of_rewrites (List.mem_singleton_self e) hpass).of_append
        (by simpa using he) he.2.2.1
      exact hp ⟨s, hs.symm⟩
    · exact ih h

theorem replaceAll_eq_self {word t : Text} (hne : word ≠ []) (h : ¬ word <:+: t) (new : Text) :
    replaceAll word new t = t := by
  induction t using occurrence_induction hne with
  | nil => rfl
  | hit u _ => exact absurd (List.prefix_append word u).isInfix h
  | keep c u hp ih =>
    rw [replaceAll_cons_of_not_isPrefix hp, ih fun hu => h (List.infix_cons_iff.mpr (.inr hu))]

section
variable {es : List Entry} (hes : ∀ e ∈ es, Sound e)
include hes

theorem rewritten_foldl {fs : List Entry} (hfs : ∀ e ∈ fs, e ∈ es) (t : Text) :
    Rewritten es t (fs.foldl (fun t e => replaceAll e.1 e.2 t) t) := by
  induction fs generalizing t with
  | nil => exact .refl es t
  | cons f fs ih =>
    have hf := hfs f List.mem_cons_self
    have hpass := Rewritten.of_rewrites hf (replaceAll_rewrites (hes f hf).1 f.2 t)
    exact hpass.trans hes (ih (fun e he => hfs e (List.mem_cons_of_mem f he)) _)

theorem not_isInfix_foldl (t : Text) :
    ∀ e ∈ es, ¬ e.1 <:+: es.foldl (fun t e => replaceAll e.1 e.2 t) t := by
  induction es generalizing t with
  | nil => simp
  | cons f es ih =>
    have hes' : ∀ e ∈ es, Sound e := fun e he => hes e (List.mem_cons_of_mem f he)
    intro e he
    rw [List.foldl_cons]
    rcases List.mem_cons.mp he with rfl | he
    · have hs := hes e List.mem_cons_self
      exact fun h => not_isInfix_replaceAll hs t
        ((rewritten_foldl hes' (fun _ h => h) _).isInfix_of_isInfix hes' hs.2.2.1 hs.1 h)
    · exact ih hes' _ e he

theorem foldl_eq_self {t : Text} (h : ∀ e ∈ es, ¬ e.1 <:+: t) :
    es.foldl (fun t e => replaceAll e.1 e.2 t) t = t := by
  induction es with
  | nil => rfl
  | cons f es ih =>
    rw [List.foldl_cons,
      replaceAll_eq_self (hes f List.mem_cons_self).1 (h f List.mem_cons_self)]
    exact ih (fun e he => hes e (List.mem_cons_of_mem f he))
      fun e he => h e (List.mem_cons_of_mem f he)

end

end ThaiScript.Lexicon

namespace ThaiScript

open Text Lexicon

theorem mem_longestFirst_operators {e : Entry} : e ∈ longestFirst operators ↔ e ∈ operators :=
  (longestFirst_perm operators).mem_iff

/-- No operator word is left. -/
theorem not_isInfix_applyOperators {e : Entry} (he : e ∈ operators) (t : Text) :
    ¬ e.1 <:+: applyOperators t :=
  not_isInfix_foldl (fun _ => sound_of_mem_operators) t e (mem_longestFirst_operators.mpr he)

theorem applyOperators_rewritten (t : Text) : Rewritten operators t (applyOperators t) :=
  rewritten_foldl (fun _ he => sound_of_mem (List.mem_append_right keywords he))
    (fun _ => mem_longestFirst_operators.mp) t

theorem applyOperators_eq_self_iff (t : Text) :
    applyOperators t = t ↔ ∀ e ∈ operators, ¬ e.1 <:+: t := by
  constructor
  · intro h e he
    rw [← h]
    exact not_isInfix_applyOperators he t
  · intro h
    exact foldl_eq_self (fun _ => sound_of_mem_operators)
      fun e he => h e (mem_longestFirst_operators.mp he)

end ThaiScript
