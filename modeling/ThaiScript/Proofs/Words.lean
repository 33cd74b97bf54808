import Mathlib.Data.List.SplitBy
import Mathlib.Data.List.TakeWhile
import ThaiScript.Proofs.Lexicon

/-!
# The words of a text

A text falls into stretches: its words, which are the longest runs of word characters, and what
stands between them. A pass that is cut at every character that is no word character does to a text
what it does to each of its words, `Cuts.eq_mapWords`. Keywords consist of word characters, so one
stands alone just where it is a whole word, and nothing that is written for an entry holds a Thai
letter, so no pass touches what an earlier one has written. Hence all passes together look each word
up once.
-/

namespace ThaiScript.Text

/-! ## Stretches -/

/-- Whether both of two characters are word characters, or none of them. -/
def sameKind (c d : Char) : Bool := isWordChar c == isWordChar d

/-- The longest stretches of word characters and of others, from the left. -/
def stretches (t : Text) : List Text := t.splitBy sameKind

/-- Whether a stretch is one of word characters. -/
def isWord (s : Text) : Bool := s.all isWordChar

/-- The stretches of word characters. -/
def words (t : Text) : List Text := (stretches t).filter isWord

/-- `s` is the longest stretch of its kind at the head of `s ++ t`. -/
structure Stretch (kind : Bool) (s t : Text) : Prop where
  ne_nil : s ≠ []
  kind_of_mem : ∀ c ∈ s, isWordChar c = kind
  kind_of_head : ∀ c ∈ t.head?, isWordChar c ≠ kind

theorem isWord_iff {s : Text} : isWord s = true ↔ ∀ c ∈ s, isWordChar c = true :=
  List.all_eq_true

namespace Stretch

variable {kind : Bool} {s t : Text}

theorem isWord_eq (h : Stretch kind s t) : isWord s = kind := by
  obtain ⟨c, s, rfl⟩ := List.exists_cons_of_ne_nil h.ne_nil
  cases kind with
  | true => exact isWord_iff.mpr h.kind_of_mem
  | false =>
    refine Bool.eq_false_iff.mpr fun hw => ?_
    have hc := isWord_iff.mp hw c List.mem_cons_self
    rw [h.kind_of_mem c List.mem_cons_self] at hc
    cases hc

theorem stretches_append (h : Stretch kind s t) : stretches (s ++ t) = s :: stretches t := by
  have hchain : s.IsChain fun c d => sameKind c d = true := by
    refine List.Pairwise.isChain (List.pairwise_of_forall_mem_list fun c hc d hd => ?_)
    rw [sameKind, h.kind_of_mem c hc, h.kind_of_mem d hd, beq_self_eq_true]
  have hedge : ∀ c ∈ s.getLast?, ∀ d ∈ t.head?, sameKind c d = false := by
    intro c hc d hd
    have hd' := (h.kind_of_head d hd).symm
    rw [← h.kind_of_mem c (List.mem_of_getLast? hc)] at hd'
    exact beq_eq_false_iff_ne.mpr hd'
  unfold stretches
  rw [List.splitBy_append hedge, List.splitBy_of_isChain h.ne_nil hchain]
  rfl

theorem words_append (h : Stretch kind s t) :
    words (s ++ t) = if kind then s :: words t else words t := by
  rw [words, h.stretches_append, List.filter_cons, h.isWord_eq]
  rfl

end Stretch

/-- A text is read from the left, one stretch after the other. -/
theorem stretches_induction {P : Text → Prop} (nil : P [])
    (stretch : ∀ kind s t, Stretch kind s t → P t → P (s ++ t)) (t : Text) : P t := by
  induction hn : t.length using Nat.strong_induction_on generalizing t with
  | _ n ih =>
    subst hn
    cases t with
    | nil => exact nil
    | cons c t =>
      have hcut := List.takeWhile_append_dropWhile (p := sameKind c) (l := c :: t)
      have hself : sameKind c c = true := beq_self_eq_true _
      have hlen := congrArg List.length hcut
      rw [List.takeWhile_cons_of_pos hself] at hcut hlen
      rw [List.length_append, List.length_cons] at hlen
      rw [← hcut]
      refine stretch (isWordChar c) _ _ ⟨List.cons_ne_nil _ _, ?_, ?_⟩ (ih _ (by omega) _ rfl)
      · intro d hd
        rcases List.mem_cons.mp hd with rfl | hd
        · rfl
        · have hkind : sameKind c d = true := List.mem_takeWhile_imp hd
          exact (beq_iff_eq.mp hkind).symm
      · intro d hd heq
        have hnot := List.head?_dropWhile_not (sameKind c) (c :: t)
        rw [hd] at hnot
        exact beq_eq_false_iff_ne.mp hnot heq.symm

/-- `ss` are the longest stretches of word characters and of others that make up `t`. -/
structure Stretches (ss : List Text) (t : Text) : Prop where
  flatten : ss.flatten = t
  ne_nil : ∀ s ∈ ss, s ≠ []
  sameKind : ∀ s ∈ ss, ∀ c ∈ s, ∀ d ∈ s, isWordChar c = isWordChar d
  otherKind : ss.IsChain fun s u => ∀ c ∈ s, ∀ d ∈ u, isWordChar c ≠ isWordChar d

theorem stretches_spec (t : Text) : Stretches (stretches t) t := by
  have hkind : ∀ s ∈ stretches t, ∀ c ∈ s, ∀ d ∈ s, isWordChar c = isWordChar d := by
    induction t using stretches_induction with
    | nil => simp [stretches]
    | stretch kind s t h ih =>
      rw [h.stretches_append]
      refine List.forall_mem_cons.mpr ⟨fun c hc d hd => ?_, ih⟩
      rw [h.kind_of_mem c hc, h.kind_of_mem d hd]
  refine ⟨List.flatten_splitBy _ t, fun s hs => List.ne_nil_of_mem_splitBy hs, hkind, ?_⟩
  have hchain := List.isChain_getLast_head_splitBy sameKind t
  refine hchain.imp_of_mem_imp fun s u hs hu ⟨hns, hnu, hne⟩ c hc d hd => ?_
  rw [hkind s hs c hc _ (List.getLast_mem hns), hkind u hu d hd _ (List.head_mem hnu)]
  exact beq_eq_false_iff_ne.mp hne

theorem ne_nil_of_mem_words {w t : Text} (h : w ∈ words t) : w ≠ [] :=
  (stretches_spec t).ne_nil w (List.mem_filter.mp h).1

theorem isWord_of_mem_words {w t : Text} (h : w ∈ words t) : isWord w = true :=
  (List.mem_filter.mp h).2

@[simp] theorem words_nil : words [] = [] := rfl

theorem words_cons {c : Char} (hc : isWordChar c = false) (t : Text) : words (c :: t) = words t := by
  have hne : isWordChar c ≠ true := by simp [hc]
  induction t using stretches_induction with
  | nil =>
    have h : Stretch false [c] [] := ⟨List.cons_ne_nil c [], by simpa using hc, by simp⟩
    simpa using h.words_append
  | stretch kind s t h _ =>
    cases kind with
    | true =>
      have hhead : ∀ d ∈ (s ++ t).head?, isWordChar d ≠ false := by
        obtain ⟨d, s, rfl⟩ := List.exists_cons_of_ne_nil h.ne_nil
        simpa using h.kind_of_mem d List.mem_cons_self
      have hc' : Stretch false [c] (s ++ t) := ⟨List.cons_ne_nil c [], by simpa using hc, hhead⟩
      exact hc'.words_append
    | false =>
      have hc' : Stretch false (c :: s) t :=
        ⟨List.cons_ne_nil c s, List.forall_mem_cons.mpr ⟨hc, h.kind_of_mem⟩, h.kind_of_head⟩
      exact hc'.words_append.trans h.words_append.symm

theorem words_append {s : Text} (hs : ∀ c ∈ s, isWordChar c = false) (t : Text) :
    words (s ++ t) = words t := by
  induction s with
  | nil => rfl
  | cons c s ih =>
    rw [List.cons_append, words_cons (hs c List.mem_cons_self)]
    exact ih fun d hd => hs d (List.mem_cons_of_mem c hd)

/-- A character that is no word character parts the words. -/
theorem words_append_cons {c : Char} (hc : isWordChar c = false) (a t : Text) :
    words (a ++ c :: t) = words a ++ words t := by
  induction a using stretches_induction with
  | nil => exact words_cons hc t
  | stretch kind s a h ih =>
    rw [List.append_assoc]
    cases kind with
    | true =>
      have hhead : ∀ d ∈ (a ++ c :: t).head?, isWordChar d ≠ true := by
        cases a with
        | nil => simpa using hc
        | cons d a => exact h.kind_of_head
      have h' : Stretch true s (a ++ c :: t) := ⟨h.ne_nil, h.kind_of_mem, hhead⟩
      rw [h'.words_append, h.words_append, ih]
      rfl
    | false => rw [words_append h.kind_of_mem, words_append h.kind_of_mem, ih]

/-! ## Passes that are cut between words -/

/-- Changes the words of a text and leaves what stands between them. -/
def mapWords (f : Text → Text) (t : Text) : Text :=
  (stretches t).flatMap fun s => if isWord s then f s else s

/-- Characters that are no word characters stay, and cut a text into parts that are changed apart. -/
structure Cuts (f : Text → Text) : Prop where
  map_nil : f [] = []
  append_cons : ∀ {c}, isWordChar c = false → ∀ a t, f (a ++ c :: t) = f a ++ c :: f t

namespace Cuts

variable {f : Text → Text} (hf : Cuts f)
include hf

theorem append_of_not_isWordChar {s : Text} (hs : ∀ c ∈ s, isWordChar c = false) (t : Text) :
    f (s ++ t) = s ++ f t := by
  induction s with
  | nil => rfl
  | cons c s ih =>
    have hcut := hf.append_cons (hs c List.mem_cons_self) [] (s ++ t)
    rw [hf.map_nil, List.nil_append, ih fun d hd => hs d (List.mem_cons_of_mem c hd)] at hcut
    exact hcut

theorem append_of_head {s t : Text} (h : ∀ c ∈ t.head?, isWordChar c = false) :
    f (s ++ t) = f s ++ f t := by
  cases t with
  | nil => rw [hf.map_nil, List.append_nil, List.append_nil]
  | cons c t =>
    have hc := h c rfl
    have hcut := hf.append_cons hc [] t
    rw [hf.map_nil, List.nil_append, List.nil_append] at hcut
    rw [hf.append_cons hc, hcut]

/-- What becomes of a word does not depend on its neighbours. -/
theorem eq_mapWords (t : Text) : f t = mapWords f t := by
  induction t using stretches_induction with
  | nil => exact hf.map_nil
  | stretch kind s t h ih =>
    rw [mapWords, h.stretches_append, List.flatMap_cons, ← mapWords, ← ih, h.isWord_eq]
    cases kind with
    | true => exact hf.append_of_head (by simpa using h.kind_of_head)
    | false => exact hf.append_of_not_isWordChar h.kind_of_mem t

end Cuts

theorem mapWords_congr {f g : Text → Text} (h : ∀ w, isWord w = true → f w = g w) (t : Text) :
    mapWords f t = mapWords g t := by
  unfold mapWords
  congr 1
  funext s
  split
  · next hs => exact h s hs
  · rfl

/-! ## Keywords -/

section
variable {word : Text}

/-- Inside of a word there is no edge. -/
theorem standsAlone_of_isWordChar {b : Option Char} {c : Char} {t : Text}
    (hb : isWordChar? b = true) (hc : isWordChar c = true) : standsAlone word b (c :: t) = false := by
  have hedge : edge b (some c) = false := by
    rw [edge, hb, isWordChar?, hc]
    rfl
  simp [standsAlone, hedge]

theorem replaceWholeFrom_of_isWord {b : Option Char} {w : Text} (hb : isWordChar? b = true)
    (hw : isWord w = true) (new : Text) : replaceWholeFrom word new 0 b w = w := by
  induction w generalizing b with
  | nil => rfl
  | cons c w ih =>
    rw [isWord_iff] at hw
    have hc := hw c List.mem_cons_self
    have hrest : isWord w = true := isWord_iff.mpr fun d hd => hw d (List.mem_cons_of_mem c hd)
    rw [replaceWholeFrom_keep (standsAlone_of_isWordChar hb hc), ih (b := some c) hc hrest]

theorem isWordChar?_getLast? (h : word ≠ []) (hword : isWord word = true) :
    isWordChar? word.getLast? = true := by
  rw [List.getLast?_eq_some_getLast h]
  exact isWord_iff.mp hword _ (List.getLast_mem h)

/-- A word that stands alone at the head of a word is all of it. -/
theorem eq_of_standsAlone (h : word ≠ []) (hword : isWord word = true) {w : Text}
    (hw : isWord w = true) {b : Option Char} (hs : standsAlone word b w = true) : w = word := by
  obtain ⟨u, rfl⟩ := prefix_of_standsAlone hs
  cases u with
  | nil => exact List.append_nil word
  | cons d u =>
    have hd := isWord_iff.mp hw d (List.mem_append_right word List.mem_cons_self)
    have hedge : edge word.getLast? (some d) = false := by
      rw [edge, isWordChar?_getLast? h hword, isWordChar?, hd]
      rfl
    simp [standsAlone, hedge] at hs

theorem standsAlone_self (h : word ≠ []) (hword : isWord word = true) :
    standsAlone word none word = true := by
  obtain ⟨c, w, rfl⟩ := List.exists_cons_of_ne_nil h
  have hc := isWord_iff.mp hword c List.mem_cons_self
  have hlast := isWordChar?_getLast? h hword
  simp only [standsAlone, edge, List.drop_length, List.head?_nil, List.head?_cons, hlast]
  simp [isWordChar?, hc]

theorem replaceWhole_of_isWord (h : word ≠ []) (hword : isWord word = true) (new : Text) {w : Text}
    (hw : isWord w = true) : replaceWhole word new w = if w = word then new else w := by
  unfold replaceWhole
  split
  · next heq =>
    subst heq
    have hhit := replaceWholeFrom_hit (t := []) (b := none) h
      (by rw [List.append_nil]; exact standsAlone_self h hword) new
    rw [List.append_nil] at hhit
    rw [hhit]
    exact List.append_nil new
  · next hne =>
    cases w with
    | nil => rfl
    | cons c w =>
      have hs : standsAlone word none (c :: w) = false :=
        Bool.eq_false_iff.mpr fun hs => hne (eq_of_standsAlone h hword hw hs)
      rw [isWord_iff] at hw
      have hrest : isWord w = true := isWord_iff.mpr fun d hd => hw d (List.mem_cons_of_mem c hd)
      rw [replaceWholeFrom_keep hs,
        replaceWholeFrom_of_isWord (b := some c) (hw c List.mem_cons_self) hrest]

end

end ThaiScript.Text

namespace ThaiScript

open Text

namespace Lexicon

/-! ## One look-up for each word -/

theorem Sound.isWord {e : Entry} (h : Sound e) : isWord e.1 = true :=
  isWord_iff.mpr fun _ hc => h.isWordChar_of_mem_word hc

/-- Replaces keywords that stand alone, each over the whole text, in the order of the list. -/
def replaceKeywords (es : List Entry) (t : Text) : Text :=
  es.foldl (fun t e => replaceWhole e.1 e.2 t) t

theorem lookup_eq_some_iff_mem {es : List Entry} (h : (es.map Prod.fst).Nodup) {w p : Text} :
    es.lookup w = some p ↔ (w, p) ∈ es := by
  induction es with
  | nil => simp
  | cons e es ih =>
    obtain ⟨v, q⟩ := e
    rw [List.map_cons, List.nodup_cons] at h
    rw [List.lookup_cons, List.mem_cons, Prod.mk.injEq]
    by_cases hwv : w = v
    · subst hwv
      have hout : (w, p) ∉ es := fun hm => h.1 (List.mem_map.mpr ⟨(w, p), hm, rfl⟩)
      simp [hout, eq_comm]
    · rw [beq_eq_false_iff_ne.mpr hwv]
      simp [hwv, ih h.2]

theorem lookup_perm {es fs : List Entry} (h : es.Perm fs) (hfs : (fs.map Prod.fst).Nodup)
    (w : Text) : es.lookup w = fs.lookup w := by
  have hes : (es.map Prod.fst).Nodup := (h.map Prod.fst).nodup_iff.mpr hfs
  refine Option.ext fun p => ?_
  rw [lookup_eq_some_iff_mem hes, lookup_eq_some_iff_mem hfs, h.mem_iff]

theorem keywords_nodup : (keywords.map Prod.fst).Nodup := by decide +kernel

section
variable {es : List Entry} (hes : ∀ e ∈ es, Sound e)
include hes

theorem replaceKeywords_steps (t : Text) :
    Relation.ReflTransGen Step t (replaceKeywords es t) :=
  steps_foldl (fun e he t => ⟨e, hes e he, replaceWhole_rewrites (hes e he).1 e.2 t⟩) t

theorem cuts_replaceKeywords : Cuts (replaceKeywords es) where
  map_nil := by
    induction es with
    | nil => rfl
    | cons e es ih => exact ih fun f hf => hes f (List.mem_cons_of_mem e hf)
  append_cons hc a t := foldl_append_cons (fun e he a t =>
    replaceWhole_append_cons (hes e he).1 ((hes e he).not_mem_word hc) hc e.2 a t) a t

/-- A word is replaced once: what was written for it holds no other keyword. -/
theorem replaceKeywords_of_isWord {w : Text} (hw : isWord w = true) :
    replaceKeywords es w = (es.lookup w).getD w := by
  induction es with
  | nil => rfl
  | cons e es ih =>
    obtain ⟨v, p⟩ := e
    have he := hes (v, p) List.mem_cons_self
    have hes' : ∀ f ∈ es, Sound f := fun f hf => hes f (List.mem_cons_of_mem _ hf)
    have hpass := replaceWhole_of_isWord he.1 he.isWord p hw
    rw [replaceKeywords, List.foldl_cons, hpass, List.lookup_cons]
    by_cases hwv : w = v
    · rw [if_pos hwv, beq_iff_eq.mpr hwv]
      exact eq_of_steps (replaceKeywords_steps hes' p) he.countP_new
    · rw [if_neg hwv, beq_eq_false_iff_ne.mpr hwv]
      exact ih hes'

theorem replaceKeywords_eq_mapWords (t : Text) :
    replaceKeywords es t = mapWords (fun w => (es.lookup w).getD w) t := by
  rw [(cuts_replaceKeywords hes).eq_mapWords]
  exact mapWords_congr (fun w hw => replaceKeywords_of_isWord hes hw) t

end

theorem replaceKeywords_perm {es : List Entry} (h : es.Perm keywords) (t : Text) :
    replaceKeywords es t = mapWords (fun w => (keyword? w).getD w) t := by
  have hes : ∀ e ∈ es, Sound e :=
    fun e he => sound_of_mem (List.mem_append_left _ (h.mem_iff.mp he))
  rw [replaceKeywords_eq_mapWords hes]
  refine mapWords_congr (fun w _ => ?_) t
  rw [lookup_perm h keywords_nodup]
  rfl

end Lexicon

open Lexicon

theorem applyKeywords_eq (t : Text) :
    applyKeywords t = mapWords (fun w => (keyword? w).getD w) t :=
  replaceKeywords_perm (longestFirst_perm keywords) t

theorem cuts_applyLexicon : Cuts applyLexicon := ⟨rfl, applyLexicon_append_cons⟩

theorem sound_of_keyword? {w p : Text} (h : keyword? w = some p) : Sound (w, p) :=
  sound_of_mem (List.mem_append_left _ ((lookup_eq_some_iff_mem keywords_nodup).mp h))

theorem applyKeywords_of_isWord {w : Text} (hw : isWord w = true) :
    applyKeywords w = (keyword? w).getD w := by
  have hpass := replaceKeywords_of_isWord (fun e he => sound_of_mem_keywords he) hw
  rw [lookup_perm (longestFirst_perm keywords) keywords_nodup] at hpass
  exact hpass

theorem applyLexicon_of_isWord {w : Text} (hw : isWord w = true) :
    applyLexicon w = (keyword? w).getD (applyOperators w) := by
  rw [applyLexicon, applyKeywords_of_isWord hw]
  cases hk : keyword? w with
  | none => rw [Option.getD_none, Option.getD_none]
  | some p =>
    rw [Option.getD_some, Option.getD_some]
    exact eq_of_steps (applyOperators_steps p) (sound_of_keyword? hk).countP_new

/-- A text is cut into its words and the stretches between them. The passes for the keywords, in
whatever order they are made, look each word up once; all passes together do so as well, and replace
the operator words of each word that is no keyword. Nothing else changes, and no word has a say in
what becomes of another. -/
theorem applyLexicon_eq_mapWords (t : Text) :
    Stretches (stretches t) t ∧
    (∀ es, es.Perm keywords →
      replaceKeywords es t = mapWords (fun w => (keyword? w).getD w) t) ∧
    applyKeywords t = mapWords (fun w => (keyword? w).getD w) t ∧
    applyLexicon t = mapWords (fun w => (keyword? w).getD (applyOperators w)) t := by
  refine ⟨stretches_spec t, fun es h => replaceKeywords_perm h t, applyKeywords_eq t, ?_⟩
  rw [cuts_applyLexicon.eq_mapWords]
  exact mapWords_congr (fun w hw => applyLexicon_of_isWord hw) t

/-- Also a keyword that ends with another one is safe when the other is tried first. -/
theorem replaceKeywords_reverse :
    keywords.reverse.Perm keywords ∧
      replaceKeywords keywords.reverse "หรือถ้า x2ใน ใน".toList = "elif x2ใน in".toList := by
  have hperm : keywords.reverse.Perm keywords := List.reverse_perm keywords
  have hpass := (applyLexicon_eq_mapWords "หรือถ้า x2ใน ใน".toList).2.1 _ hperm
  exact ⟨hperm, hpass.trans (by decide +kernel)⟩

end ThaiScript
