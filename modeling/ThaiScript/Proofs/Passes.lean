import ThaiScript.Proofs.Replacement

/-!
# One reading instead of many passes

`replaceEach es t` replaces the words of a table one after the other, each in the whole text;
`replaceBy pick t` reads the text once from the left and replaces the word that `pick` chooses where
it stands. A pass can undo what another one needs only where a word reaches into another word or
into what was written for one. `Inert` excludes the second: then the passes treat a word and what
follows it apart, unless a word that is tried earlier begins in it, `replaceEach_word_append`.
-/

namespace ThaiScript.Text

/-! ## Reading once -/

section
variable (pick : Text → Option (Text × Text))

/-- `skip` is the number of characters still to be dropped of a word just replaced. -/
def replaceByFrom : (skip : Nat) → Text → Text
  | _, [] => []
  | skip + 1, _ :: t => replaceByFrom skip t
  | 0, c :: t =>
    match pick (c :: t) with
    | some e => e.2 ++ replaceByFrom (e.1.length - 1) t
    | none => c :: replaceByFrom 0 t

/-- Reads a text from the left. Where `pick` chooses a word and what stands for it, that is written
and the reading goes on behind the word. -/
def replaceBy (t : Text) : Text := replaceByFrom pick 0 t

/-- What is chosen is a word at the head of the text. -/
def Picks : Prop := ∀ t e, pick t = some e → e.1 ≠ [] ∧ e.1 <+: t

end

section
variable {pick : Text → Option (Text × Text)}

@[simp] theorem replaceBy_nil : replaceBy pick [] = [] := rfl

theorem replaceByFrom_length_append (p t : Text) :
    replaceByFrom pick p.length (p ++ t) = replaceBy pick t := by
  induction p with
  | nil => rfl
  | cons c p ih => exact ih

theorem replaceBy_cons {c : Char} {t : Text} (h : pick (c :: t) = none) :
    replaceBy pick (c :: t) = c :: replaceBy pick t := by
  unfold replaceBy
  rw [replaceByFrom, h]

variable (hpick : Picks pick)
include hpick

theorem replaceBy_word_append {e : Text × Text} {t : Text} (h : pick (e.1 ++ t) = some e) :
    replaceBy pick (e.1 ++ t) = e.2 ++ replaceBy pick t := by
  obtain ⟨c, w, hw⟩ := List.exists_cons_of_ne_nil (hpick _ _ h).1
  rw [hw, List.cons_append] at h ⊢
  rw [replaceBy, replaceByFrom, h]
  change e.2 ++ replaceByFrom pick (e.1.length - 1) (w ++ t) = _
  rw [hw, List.length_cons, Nat.add_sub_cancel, replaceByFrom_length_append]

/-- A text is read from the left: behind the word that is chosen, else behind one character. -/
theorem picking_induction {P : Text → Prop} (nil : P [])
    (word : ∀ e t, pick (e.1 ++ t) = some e → P t → P (e.1 ++ t))
    (keep : ∀ c t, pick (c :: t) = none → P t → P (c :: t)) (t : Text) : P t := by
  induction hn : t.length using Nat.strong_induction_on generalizing t with
  | _ n ih =>
    subst hn
    cases t with
    | nil => exact nil
    | cons c t =>
      cases h : pick (c :: t) with
      | none => exact keep c t h (ih _ (by simp) t rfl)
      | some e =>
        obtain ⟨hne, u, hu⟩ := hpick _ _ h
        have hlen := congrArg List.length hu
        have hpos := List.length_pos_iff.mpr hne
        rw [List.length_append] at hlen
        rw [← hu] at h ⊢
        exact word e u h (ih _ (by omega) u rfl)

/-- A function that does the same at each place is the reading. -/
theorem eq_replaceBy {f : Text → Text} (nil : f [] = [])
    (word : ∀ e t, pick (e.1 ++ t) = some e → f (e.1 ++ t) = e.2 ++ f t)
    (keep : ∀ c t, pick (c :: t) = none → f (c :: t) = c :: f t) (t : Text) :
    f t = replaceBy pick t := by
  induction t using picking_induction hpick with
  | nil => exact nil
  | word e t h ih => rw [word e t h, ih, replaceBy_word_append hpick h]
  | keep c t h ih => rw [keep c t h, ih, replaceBy_cons h]

/-- A part in which the choice does not depend on what follows is read by itself. -/
theorem replaceBy_append {a t : Text} (h : ∀ b, b ≠ [] → b <:+ a → pick (b ++ t) = pick b) :
    replaceBy pick (a ++ t) = replaceBy pick a ++ replaceBy pick t := by
  induction a using picking_induction hpick with
  | nil => rfl
  | word e a he ih =>
    have hhead := h (e.1 ++ a) (by simp [(hpick _ _ he).1]) List.suffix_rfl
    rw [he, List.append_assoc] at hhead
    have hrest := ih fun b hb hsuf => h b hb (hsuf.trans (List.suffix_append e.1 a))
    rw [List.append_assoc, replaceBy_word_append hpick hhead, replaceBy_word_append hpick he, hrest,
      List.append_assoc]
  | keep c a hc ih =>
    have hhead := h (c :: a) (List.cons_ne_nil c a) List.suffix_rfl
    rw [hc, List.cons_append] at hhead
    have hrest := ih fun b hb hsuf => h b hb (hsuf.trans (List.suffix_cons c a))
    rw [List.cons_append, replaceBy_cons hhead, replaceBy_cons hc, hrest, List.cons_append]

theorem replaceBy_congr {pick' : Text → Option (Text × Text)} (hpick' : Picks pick') {t : Text}
    (h : ∀ b, b <:+ t → pick b = pick' b) : replaceBy pick t = replaceBy pick' t := by
  induction t using picking_induction hpick with
  | nil => rfl
  | word e t he ih =>
    have he' := (h _ List.suffix_rfl).symm.trans he
    rw [replaceBy_word_append hpick he, replaceBy_word_append hpick' he',
      ih fun b hb => h b (hb.trans (List.suffix_append e.1 t))]
  | keep c t hc ih =>
    have hc' := (h _ List.suffix_rfl).symm.trans hc
    rw [replaceBy_cons hc, replaceBy_cons hc', ih fun b hb => h b (hb.trans (List.suffix_cons c t))]

end

/-! ## Passes -/

/-- Replaces the words of a table, one after the other, each wherever it occurs in the text that the
passes before it have left. -/
def replaceEach (es : List (Text × Text)) (t : Text) : Text :=
  es.foldl (fun t e => replaceAll e.1 e.2 t) t

theorem replaceEach_append_table (es fs : List (Text × Text)) (t : Text) :
    replaceEach (es ++ fs) t = replaceEach fs (replaceEach es t) := List.foldl_append

theorem replaceEach_cons_table (e : Text × Text) (es : List (Text × Text)) (t : Text) :
    replaceEach (e :: es) t = replaceEach es (replaceAll e.1 e.2 t) := rfl

theorem replaceEach_nil (es : List (Text × Text)) : replaceEach es [] = [] := by
  induction es with
  | nil => rfl
  | cons e es ih => exact ih

/-- What is written for a word begins with a character that no word holds, and it holds no character
that a word begins with. So no word reaches into it. -/
structure Inert (es : List (Text × Text)) : Prop where
  word : ∀ e ∈ es, ∃ c w, e.1 = c :: w ∧ ∀ f ∈ es, c ∉ f.2
  new : ∀ e ∈ es, ∃ c v, e.2 = c :: v ∧ ∀ f ∈ es, c ∉ f.1

/-- No word of the table begins in `a` when `t` follows. -/
def Apart (es : List (Text × Text)) (a t : Text) : Prop :=
  ∀ e ∈ es, ∀ b, b ≠ [] → b <:+ a → ¬ e.1 <+: b ++ t

/-- What occurs, but does not begin in `a`, occurs behind it. -/
theorem isInfix_of_append {w a t : Text} (h : ∀ b, b ≠ [] → b <:+ a → ¬ w <+: b ++ t)
    (hw : w <:+: a ++ t) : w <:+: t := by
  induction a with
  | nil => exact hw
  | cons c a ih =>
    rcases List.infix_cons_iff.mp hw with hhead | hrest
    · exact absurd hhead (h (c :: a) (List.cons_ne_nil c a) List.suffix_rfl)
    · exact ih (fun b hb hsuf => h b hb (hsuf.trans (List.suffix_cons c a))) hrest

theorem Apart.mono {es fs : List (Text × Text)} {a t : Text} (h : Apart es a t)
    (hfs : ∀ e ∈ fs, e ∈ es) : Apart fs a t := fun e he => h e (hfs e he)

theorem apart_singleton {es : List (Text × Text)} {c : Char} {t : Text}
    (h : ∀ e ∈ es, ¬ e.1 <+: c :: t) : Apart es [c] t := by
  intro e he b hb hsuf
  rcases List.suffix_cons_iff.mp hsuf with rfl | hnil
  · exact h e he
  · exact absurd (List.suffix_nil.mp hnil) hb

theorem replaceAll_append_of_apart {e : Text × Text} {a t : Text} (h : Apart [e] a t) :
    replaceAll e.1 e.2 (a ++ t) = a ++ replaceAll e.1 e.2 t := by
  induction a with
  | nil => rfl
  | cons c a ih =>
    have hhead := h e (List.mem_singleton_self e) (c :: a) (List.cons_ne_nil c a) List.suffix_rfl
    have hrest := ih fun f hf b hb hsuf => h f hf b hb (hsuf.trans (List.suffix_cons c a))
    rw [List.cons_append] at hhead ⊢
    rw [replaceAll_cons_of_not_isPrefix hhead, hrest, List.cons_append]

namespace Inert

variable {es : List (Text × Text)} (h : Inert es) {e f : Text × Text} {a t u : Text}
include h

theorem mono {fs : List (Text × Text)} (hfs : ∀ e ∈ fs, e ∈ es) : Inert fs where
  word e he := by
    obtain ⟨c, w, hw, hout⟩ := h.word e (hfs e he)
    exact ⟨c, w, hw, fun f hf => hout f (hfs f hf)⟩
  new e he := by
    obtain ⟨c, v, hv, hout⟩ := h.new e (hfs e he)
    exact ⟨c, v, hv, fun f hf => hout f (hfs f hf)⟩

theorem word_ne_nil (he : e ∈ es) : e.1 ≠ [] := by
  obtain ⟨c, w, hw, -⟩ := h.word e he
  rw [hw]
  exact List.cons_ne_nil c w

/-- No word begins in what was written. -/
theorem apart_new (he : e ∈ es) : Apart es e.2 t := by
  intro f hf b hb hsuf hpre
  obtain ⟨c, w, hw, hout⟩ := h.word f hf
  obtain ⟨d, b, rfl⟩ := List.exists_cons_of_ne_nil hb
  rw [hw] at hpre
  obtain ⟨rfl, -⟩ := List.cons_prefix_cons.mp hpre
  exact hout e he (hsuf.subset List.mem_cons_self)

/-- A word that begins before what was written ends before it. -/
theorem isPrefix_of_append_new (he : e ∈ es) (hf : f ∈ es) (hp : f.1 <+: a ++ (e.2 ++ t)) :
    f.1 <+: a := by
  obtain ⟨c, v, hv, hout⟩ := h.new e he
  rw [hv, List.cons_append] at hp
  exact (prefix_append_cons_iff (hout f hf)).mp hp

/-- A pass makes no word occur. -/
theorem isPrefix_of_rewrites (he : e ∈ es) (hf : f ∈ es) (hr : Rewrites e.1 e.2 t u)
    (hp : f.1 <+: a ++ u) : f.1 <+: a ++ t := by
  induction hr generalizing a with
  | nil => exact hp
  | hit _ _ => exact (h.isPrefix_of_append_new he hf hp).trans (List.prefix_append a _)
  | keep c _ ih =>
    have hrest := ih (a := a ++ [c]) (by simpa using hp)
    simpa using hrest

theorem apart_replaceAll (he : e ∈ es) (ha : Apart es a t) : Apart es a (replaceAll e.1 e.2 t) := by
  intro f hf b hb hsuf hp
  have hr := replaceAll_rewrites (h.word_ne_nil he) e.2 t
  exact ha f hf b hb hsuf (h.isPrefix_of_rewrites he hf hr hp)

end Inert

section
variable {es : List (Text × Text)} (h : Inert es)
include h

theorem replaceEach_append_of_apart {a t : Text} (ha : Apart es a t) :
    replaceEach es (a ++ t) = a ++ replaceEach es t := by
  induction es generalizing t with
  | nil => rfl
  | cons e es ih =>
    have htail : ∀ f ∈ es, f ∈ e :: es := fun f hf => List.mem_cons_of_mem e hf
    have hpass : replaceAll e.1 e.2 (a ++ t) = a ++ replaceAll e.1 e.2 t :=
      replaceAll_append_of_apart (ha.mono (by simp))
    have hrest := (h.apart_replaceAll List.mem_cons_self ha).mono htail
    rw [replaceEach_cons_table, hpass, ih (h.mono htail) hrest, replaceEach_cons_table]

theorem replaceEach_cons_of_not_isPrefix {c : Char} {t : Text} (hc : ∀ e ∈ es, ¬ e.1 <+: c :: t) :
    replaceEach es (c :: t) = c :: replaceEach es t :=
  replaceEach_append_of_apart h (apart_singleton hc)

/-- Where no word occurs nothing changes. -/
theorem replaceEach_eq_self {t : Text} (ht : ∀ e ∈ es, ¬ e.1 <:+: t) : replaceEach es t = t := by
  have ha : Apart es t [] := by
    intro e he b _ hsuf hp
    rw [List.append_nil] at hp
    exact ht e he (hp.isInfix.trans hsuf.isInfix)
  have hpass := replaceEach_append_of_apart h ha
  rwa [List.append_nil, replaceEach_nil, List.append_nil] at hpass

/-- A word is replaced whole when no word that is tried before it begins in it. -/
theorem replaceEach_word_append {before after : List (Text × Text)} {e : Text × Text} {t : Text}
    (hes : es = before ++ e :: after) (ha : Apart before e.1 t) :
    replaceEach es (e.1 ++ t) = e.2 ++ replaceEach es t := by
  have he : e ∈ es := by simp [hes]
  have hbefore : ∀ f ∈ before, f ∈ es := fun f hf => by simp [hes, hf]
  have hafter : ∀ f ∈ after, f ∈ es := fun f hf => by simp [hes, hf]
  have hnew : Apart after e.2 (replaceAll e.1 e.2 (replaceEach before t)) :=
    (h.apart_new he).mono hafter
  calc replaceEach es (e.1 ++ t)
      = replaceEach after (replaceAll e.1 e.2 (replaceEach before (e.1 ++ t))) := by
        rw [hes, replaceEach_append_table, replaceEach_cons_table]
    _ = replaceEach after (e.2 ++ replaceAll e.1 e.2 (replaceEach before t)) := by
        rw [replaceEach_append_of_apart (h.mono hbefore) ha,
          replaceAll_word_append (h.word_ne_nil he)]
    _ = e.2 ++ replaceEach after (replaceAll e.1 e.2 (replaceEach before t)) :=
        replaceEach_append_of_apart (h.mono hafter) hnew
    _ = e.2 ++ replaceEach es t := by
        rw [hes, replaceEach_append_table, replaceEach_cons_table]

end

/-! ## Passes in any order -/

/-- The first word of a table that stands at the head of a text, with what stands for it. -/
def wordAt? (es : List (Text × Text)) (t : Text) : Option (Text × Text) :=
  es.find? fun e => e.1.isPrefixOf t

/-- No word of the table begins in another one, whatever follows. -/
def Scattered (es : List (Text × Text)) : Prop := ∀ e ∈ es, ∀ f ∈ es, f ≠ e → ∀ t, Apart [f] e.1 t

theorem Scattered.mono {es fs : List (Text × Text)} (h : Scattered es) (hfs : ∀ e ∈ fs, e ∈ es) :
    Scattered fs := fun e he f hf => h e (hfs e he) f (hfs f hf)

section
variable {es : List (Text × Text)} (h : Inert es) {t : Text}
include h

theorem picks_wordAt? : Picks (wordAt? es) := by
  intro t e he
  obtain ⟨hp, -⟩ := List.find?_eq_some_iff_append.mp he
  exact ⟨h.word_ne_nil (List.mem_of_find?_eq_some he), List.isPrefixOf_iff_prefix.mp hp⟩

theorem Scattered.eq_of_isPrefix (hs : Scattered es) {e f : Text × Text} (he : e ∈ es)
    (hf : f ∈ es) (hep : e.1 <+: t) (hfp : f.1 <+: t) : f = e := by
  by_contra hne
  obtain ⟨u, rfl⟩ := hep
  exact hs e he f hf hne u f (List.mem_singleton_self f) e.1 (h.word_ne_nil he) List.suffix_rfl hfp

variable (hs : Scattered es)
include hs

theorem wordAt?_eq_some_iff {e : Text × Text} : wordAt? es t = some e ↔ e ∈ es ∧ e.1 <+: t := by
  constructor
  · intro he
    exact ⟨List.mem_of_find?_eq_some he, (picks_wordAt? h t e he).2⟩
  · rintro ⟨he, hp⟩
    cases hf : wordAt? es t with
    | none =>
      have hnot := List.find?_eq_none.mp hf e he
      rw [List.isPrefixOf_iff_prefix] at hnot
      exact absurd hp hnot
    | some f =>
      have hfp := (picks_wordAt? h t f hf).2
      rw [hs.eq_of_isPrefix h he (List.mem_of_find?_eq_some hf) hp hfp]

theorem wordAt?_perm {fs : List (Text × Text)} (hp : fs.Perm es) : wordAt? fs = wordAt? es := by
  have hfs : ∀ e ∈ fs, e ∈ es := fun e => hp.mem_iff.mp
  funext t
  refine Option.ext fun e => ?_
  rw [wordAt?_eq_some_iff h hs, wordAt?_eq_some_iff (h.mono hfs) (hs.mono hfs), hp.mem_iff]

/-- The passes are one reading, in which each word is replaced where it stands. -/
theorem replaceEach_eq_replaceBy (t : Text) : replaceEach es t = replaceBy (wordAt? es) t := by
  refine eq_replaceBy (picks_wordAt? h) (replaceEach_nil es) (fun e t he => ?_) (fun c t hc => ?_) t
  · obtain ⟨-, before, after, hes, hbefore⟩ := List.find?_eq_some_iff_append.mp he
    refine replaceEach_word_append h hes fun f hf => ?_
    have hmem : e ∈ es := List.mem_of_find?_eq_some he
    have hfmem : f ∈ es := by simp [hes, hf]
    have hne : f ≠ e := by
      rintro rfl
      have hnot := hbefore f hf
      rw [Bool.not_eq_true', ← Bool.not_eq_true, List.isPrefixOf_iff_prefix] at hnot
      exact hnot (List.prefix_append f.1 t)
    exact hs e hmem f hfmem hne t f (List.mem_singleton_self f)
  · refine replaceEach_cons_of_not_isPrefix h fun e he hp => ?_
    rw [(wordAt?_eq_some_iff h hs).mpr ⟨he, hp⟩] at hc
    cases hc

/-- The order of the passes makes no difference. -/
theorem replaceEach_perm {fs : List (Text × Text)} (hp : fs.Perm es) (t : Text) :
    replaceEach fs t = replaceEach es t := by
  have hfs : ∀ e ∈ fs, e ∈ es := fun e => hp.mem_iff.mp
  rw [replaceEach_eq_replaceBy (h.mono hfs) (hs.mono hfs), replaceEach_eq_replaceBy h hs,
    wordAt?_perm h hs hp]

end

end ThaiScript.Text
