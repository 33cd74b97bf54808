import ThaiScript.Proofs.Passes
import ThaiScript.Proofs.Scan

/-!
# Restoring in any order

Restoring puts the literals back by one pass after the other, over texts that already hold literals.
An opening delimiter stands at the head of a placeholder only, so no placeholder begins in another
one; a literal begins with a quote and holds no opening delimiter, so none begins in a literal and
none goes on into one. Whatever the text is, the passes are then one reading, in any order:
`restore_eq_reading`.
-/

namespace ThaiScript

open Text

/-- Different placeholders, each with a text that begins with a quote and holds no opening
delimiter. -/
structure Placeholders (opening closing : Char) (es : List (Text × Text)) : Prop where
  word : ∀ e ∈ es, ∃ n, e.1 = placeholder opening closing n
  nodup : (es.map Prod.fst).Nodup
  quote : ∀ e ∈ es, ∃ q b, (q = '"' ∨ q = '\'') ∧ e.2 = q :: b
  opening_not_mem : ∀ e ∈ es, opening ∉ e.2

/-! ## The table of a shielded text -/

namespace Shielded

variable {opening closing : Char}

theorem placeholder_injective {m n : Nat}
    (h : placeholder opening closing m = placeholder opening closing n) : m = n := by
  rw [placeholder_eq, placeholder_eq, List.cons_inj_right, List.append_left_inj] at h
  exact ofNat_injective h

theorem exists_of_mem_table {n : Nat} {rest : List (Text × Text)} {e : Text × Text}
    (h : e ∈ (number opening closing n rest).table) :
    (∃ k, n ≤ k ∧ e.1 = placeholder opening closing k) ∧ ∃ gap, (e.2, gap) ∈ rest := by
  induction rest generalizing n with
  | nil => cases h
  | cons d rest ih =>
    obtain ⟨literal, gap⟩ := d
    rw [number_cons, List.mem_cons] at h
    rcases h with rfl | h
    · exact ⟨⟨n, Nat.le_refl n, rfl⟩, gap, List.mem_cons_self⟩
    · obtain ⟨⟨k, hk, hplace⟩, gap', hgap⟩ := ih h
      exact ⟨⟨k, Nat.le_of_succ_le hk, hplace⟩, gap', List.mem_cons_of_mem _ hgap⟩

theorem nodup_table (n : Nat) (rest : List (Text × Text)) :
    ((number opening closing n rest).table.map Prod.fst).Nodup := by
  induction rest generalizing n with
  | nil => exact List.nodup_nil
  | cons d rest ih =>
    rw [number_cons, List.map_cons, List.nodup_cons]
    refine ⟨fun hmem => ?_, ih (n + 1)⟩
    obtain ⟨e, he, heq⟩ := List.mem_map.mp hmem
    obtain ⟨⟨k, hk, hplace⟩, -⟩ := exists_of_mem_table he
    have hkn := placeholder_injective (hplace.symm.trans heq)
    omega

theorem placeholders_of {source : Text} (hd : delimiters? source = some (opening, closing))
    (hfree : Free source opening closing) : Placeholders opening closing (of source).table := by
  rw [of_eq hd]
  refine ⟨fun e he => ?_, nodup_table 0 _, fun e he => ?_, fun e he hmem => ?_⟩
  · obtain ⟨⟨k, -, hplace⟩, -⟩ := exists_of_mem_table he
    exact ⟨k, hplace⟩
  · obtain ⟨-, gap, hgap⟩ := exists_of_mem_table he
    obtain ⟨q, b, hq, hliteral⟩ := (Layout.proper_of source).2.quoted _ hgap
    exact ⟨q, b ++ [q], hq, hliteral⟩
  · obtain ⟨-, gap, hgap⟩ := exists_of_mem_table he
    exact ((Layout.not_mem_of hfree.opening_not_mem).2 _ hgap).1 hmem

end Shielded

/-! ## Placeholders are passed over and replaced whole -/

namespace Placeholders

variable {opening closing : Char} {es : List (Text × Text)} (h : Placeholders opening closing es)
  (ho : opening ∈ privateUse) (hc : closing ∈ privateUse)
include h

theorem eq_of_word_eq {e f : Text × Text} (he : e ∈ es) (hf : f ∈ es) (heq : e.1 = f.1) : e = f :=
  List.inj_on_of_nodup_map h.nodup he hf heq

include ho hc

theorem inert : Inert es where
  word e he := by
    obtain ⟨n, hn⟩ := h.word e he
    exact ⟨opening, _, hn.trans (placeholder_eq n), fun f hf => h.opening_not_mem f hf⟩
  new e he := by
    obtain ⟨q, b, hq, hb⟩ := h.quote e he
    refine ⟨q, b, hb, fun f hf => ?_⟩
    obtain ⟨n, hn⟩ := h.word f hf
    rw [hn]
    exact quote_not_mem_placeholder ho hc hq n

variable (hne : opening ≠ closing)
include hne

theorem scattered : Scattered es := by
  intro e he f hf hfe t g hg b hb hsuf hp
  obtain rfl := List.mem_singleton.mp hg
  obtain ⟨m, hm⟩ := h.word e he
  obtain ⟨n, hn⟩ := h.word g hf
  rw [hm, placeholder_eq] at hsuf
  rw [hn, placeholder_eq] at hp
  rcases List.suffix_cons_iff.mp hsuf with rfl | htail
  · -- two placeholders at one place have the same numeral
    rw [List.cons_append, List.cons_prefix_cons, List.append_assoc] at hp
    obtain rfl := eq_of_numeral_isPrefix hc hp.2
    exact hfe (h.eq_of_word_eq hf he (hn.trans hm.symm))
  · obtain ⟨c, b, rfl⟩ := List.exists_cons_of_ne_nil hb
    obtain ⟨rfl, -⟩ := List.cons_prefix_cons.mp hp
    exact opening_not_mem_numeral ho hne m (htail.subset List.mem_cons_self)

/-- What stands before a placeholder has the same placeholders at each place as by itself. -/
theorem wordAt?_append {e : Text × Text} (he : e ∈ es) {b t : Text} (hb : b ≠ []) :
    wordAt? es (b ++ (e.1 ++ t)) = wordAt? es b := by
  have hinert := h.inert ho hc
  have hscattered := h.scattered ho hc hne
  refine Option.ext fun f => ?_
  rw [wordAt?_eq_some_iff hinert hscattered, wordAt?_eq_some_iff hinert hscattered]
  refine and_congr_right fun hf => ?_
  obtain ⟨m, hm⟩ := h.word e he
  obtain ⟨n, hn⟩ := h.word f hf
  obtain ⟨c, b, rfl⟩ := List.exists_cons_of_ne_nil hb
  have htail := opening_not_mem_numeral ho hne n
  rw [hm, hn, placeholder_eq, placeholder_eq, List.cons_append, List.cons_append,
    List.cons_prefix_cons, List.cons_prefix_cons, prefix_append_cons_iff htail]

/-- A placeholder becomes its literal in every context, and parts what stands around it. -/
theorem replaceEach_append {e : Text × Text} (he : e ∈ es) (a t : Text) :
    replaceEach es (a ++ (e.1 ++ t)) = replaceEach es a ++ (e.2 ++ replaceEach es t) := by
  have hinert := h.inert ho hc
  have hscattered := h.scattered ho hc hne
  have hread := replaceEach_eq_replaceBy hinert hscattered
  have hpicks := picks_wordAt? hinert
  have hhere : wordAt? es (e.1 ++ t) = some e :=
    (wordAt?_eq_some_iff hinert hscattered).mpr ⟨he, List.prefix_append e.1 t⟩
  rw [hread, hread, hread, replaceBy_append hpicks fun b hb _ => h.wordAt?_append ho hc hne he hb,
    replaceBy_word_append hpicks hhere]

end Placeholders

/-! ## Restoring -/

theorem restore_eq_replaceEach : restore = replaceEach := rfl

theorem exists_placeholders (source : Text) :
    ∃ opening closing, opening ∈ privateUse ∧ closing ∈ privateUse ∧ opening ≠ closing ∧
      Placeholders opening closing (Shielded.of source).table := by
  rcases delimiters?_cases source with ⟨opening, closing, hd, hfree⟩ | hd
  · exact ⟨opening, closing, hfree.opening_mem, hfree.closing_mem, hfree.ne,
      Shielded.placeholders_of hd hfree⟩
  · rw [Shielded.of_eq_self hd]
    refine ⟨'\ue000', '\ue001', mem_privateUse.mpr (by decide), mem_privateUse.mpr (by decide),
      by decide, ?_, List.nodup_nil, ?_, ?_⟩ <;> simp

/-- Whatever the text is, restoring reads it once from the left and puts its literal for each
placeholder, and so does restoring in any other order. Each occurrence of a placeholder becomes its
literal, what stands around it is restored by itself, and where no placeholder occurs nothing
changes. -/
theorem restore_eq_reading (source t : Text) :
    let table := (Shielded.of source).table
    restore table t = replaceBy (wordAt? table) t ∧
    (∀ es, es.Perm table → restore es t = restore table t) ∧
    (∀ e ∈ table, ∀ a b, restore table (a ++ (e.1 ++ b)) =
      restore table a ++ (e.2 ++ restore table b)) ∧
    ((∀ e ∈ table, ¬ e.1 <:+: t) → restore table t = t) := by
  obtain ⟨opening, closing, ho, hc, hne, h⟩ := exists_placeholders source
  have hinert := h.inert ho hc
  have hscattered := h.scattered ho hc hne
  rw [restore_eq_replaceEach]
  exact ⟨replaceEach_eq_replaceBy hinert hscattered t,
    fun es hes => replaceEach_perm hinert hscattered hes t,
    fun e he a b => h.replaceEach_append ho hc hne he a b,
    fun hno => replaceEach_eq_self hinert hno⟩

/-- Of two nested placeholders the inner one is put back, also when the last literal comes first. -/
theorem restore_eq_reading_nested :
    let table := (Shielded.of "'0' + \"1\"".toList).table
    table.reverse.Perm table ∧
      restore table.reverse "\ue000\ue0000\ue001\ue001\ue0001\ue001".toList =
        "\ue000'0'\ue001\"1\"".toList := by
  obtain ⟨hread, horder, -, -⟩ := restore_eq_reading "'0' + \"1\"".toList
    "\ue000\ue0000\ue001\ue001\ue0001\ue001".toList
  have hperm := (Shielded.of "'0' + \"1\"".toList).table.reverse_perm
  exact ⟨hperm, (horder _ hperm).trans (hread.trans (by decide +kernel))⟩

end ThaiScript
