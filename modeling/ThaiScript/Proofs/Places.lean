import ThaiScript.Proofs.Restoration

/-!
# The places of literals

What a shielded source looks like, whatever it holds: `Represents`. The delimiters are the two
smallest private-use characters that the source spares, so in the shielded text they come from
placeholders only. An opening one stands at the head of a placeholder and nowhere else, and the
numeral behind it says of which: so each placeholder stands there once, in the order of the table.
The induction is on the literals that are still to come, behind a stretch without delimiters.
-/

namespace ThaiScript

open Text

/-! ## The smallest spare characters -/

/-- A private-use character that a source does not use. -/
def Spares (source : Text) (c : Char) : Prop :=
  0xE000 ≤ c.toNat ∧ c.toNat ≤ 0xF8FF ∧ c ∉ source

/-- The two smallest private-use characters that a source does not use. -/
structure Smallest (source : Text) (opening closing : Char) : Prop where
  spares_opening : Spares source opening
  spares_closing : Spares source closing
  lt : opening.toNat < closing.toNat
  least : ∀ c, Spares source c → c = opening ∨ closing.toNat ≤ c.toNat

theorem mem_spare {source : Text} {c : Char} : c ∈ spare source ↔ Spares source c := by
  rw [spare, List.mem_filter, mem_privateUse, decide_eq_true_iff, Spares, and_assoc]

theorem pairwise_privateUse : privateUse.Pairwise (·.toNat < ·.toNat) := by
  refine List.pairwise_map.mpr (List.pairwise_lt_range.imp_of_mem fun {i j} hi hj hij => ?_)
  rw [toNat_privateUse (List.mem_range.mp hi), toNat_privateUse (List.mem_range.mp hj)]
  omega

theorem pairwise_spare (source : Text) : (spare source).Pairwise (·.toNat < ·.toNat) :=
  pairwise_privateUse.filter _

theorem smallest_of_spare {source r : Text} {opening closing : Char}
    (h : spare source = opening :: closing :: r) : Smallest source opening closing := by
  have hsorted := pairwise_spare source
  rw [h, List.pairwise_cons, List.pairwise_cons] at hsorted
  have hmem {c : Char} : Spares source c ↔ c = opening ∨ c = closing ∨ c ∈ r := by
    rw [← mem_spare, h, List.mem_cons, List.mem_cons]
  refine ⟨hmem.mpr (.inl rfl), hmem.mpr (.inr (.inl rfl)), hsorted.1 _ List.mem_cons_self,
    fun c hc => ?_⟩
  rcases hmem.mp hc with hc | rfl | hc
  · exact .inl hc
  · exact .inr (Nat.le_refl _)
  · exact .inr (Nat.le_of_lt (hsorted.2.1 c hc))

theorem two_le_length_spare_iff {source : Text} :
    2 ≤ (spare source).length ↔ ∃ c d, c ≠ d ∧ Spares source c ∧ Spares source d := by
  simp only [← mem_spare]
  constructor
  · intro h
    obtain ⟨opening, closing, r, hs⟩ := exists_spare h
    refine ⟨opening, closing, (free_of_spare hs).ne, ?_, ?_⟩ <;> simp [hs]
  · rintro ⟨c, d, hne, hc, hd⟩
    rcases hs : spare source with _ | ⟨e, _ | ⟨f, r⟩⟩
    · simp [hs] at hc
    · rw [hs, List.mem_singleton] at hc hd
      exact absurd (hc.trans hd.symm) hne
    · simp

/-! ## The words of a text -/

/-- The words that begin at each place of a text, from the left. -/
def found (ws : List Text) : Text → List Text
  | [] => []
  | c :: t => ws.filter (fun w => w <+: c :: t) ++ found ws t

section
variable {opening closing : Char}

theorem found_append_of_not_mem {ws : List Text} (hws : ∀ w ∈ ws, ∃ v, w = opening :: v) {g : Text}
    (hg : opening ∉ g) (t : Text) : found ws (g ++ t) = found ws t := by
  induction g with
  | nil => rfl
  | cons c g ih =>
    rw [List.mem_cons, not_or] at hg
    have hnone : ws.filter (fun w => w <+: c :: (g ++ t)) = [] := by
      refine List.filter_eq_nil_iff.mpr fun w hw => ?_
      obtain ⟨v, rfl⟩ := hws w hw
      rw [decide_eq_true_iff]
      exact fun hp => hg.1 (List.cons_prefix_cons.mp hp).1
    rw [List.cons_append, found, hnone, ih hg.2]
    rfl

/-- The placeholders for the first `k` literals. -/
def firstPlaceholders (opening closing : Char) (k : Nat) : List Text :=
  (List.range k).map (placeholder opening closing)

theorem found_firstPlaceholders_append (k : Nat) {g : Text} (hg : opening ∉ g) (t : Text) :
    found (firstPlaceholders opening closing k) (g ++ t) =
      found (firstPlaceholders opening closing k) t :=
  found_append_of_not_mem (by simp [firstPlaceholders, placeholder_eq]) hg t

/-- A placeholder and what follows it begin with no other placeholder. -/
theorem filter_firstPlaceholders (opening : Char) (hc : closing ∈ privateUse) {k n : Nat}
    (hn : n < k) (t : Text) : ((firstPlaceholders opening closing k).filter fun w =>
      w <+: placeholder opening closing n ++ t) = [placeholder opening closing n] := by
  have hiff (m : Nat) :
      placeholder opening closing m <+: placeholder opening closing n ++ t ↔ m = n := by
    constructor
    · intro h
      rw [placeholder_eq, placeholder_eq, List.cons_append, List.append_assoc] at h
      exact eq_of_numeral_isPrefix hc (List.cons_prefix_cons.mp h).2
    · rintro rfl
      exact List.prefix_append _ _
  simp only [firstPlaceholders, List.filter_map, Function.comp_def, hiff]
  rw [List.filter_eq, List.count_eq_one_of_mem List.nodup_range (List.mem_range.mpr hn)]
  rfl

theorem found_placeholder_append (ho : opening ∈ privateUse) (hc : closing ∈ privateUse)
    (hne : opening ≠ closing) {k n : Nat} (hn : n < k) (t : Text) :
    found (firstPlaceholders opening closing k) (placeholder opening closing n ++ t) =
      placeholder opening closing n :: found (firstPlaceholders opening closing k) t := by
  have hhead := filter_firstPlaceholders opening hc hn t
  have htail := opening_not_mem_numeral ho hne n
  rw [placeholder_eq n, List.cons_append] at hhead ⊢
  rw [found, hhead, found_firstPlaceholders_append k htail]
  rfl

end

theorem eq_or_exists_of_append_cons_eq {c : Char} {g t a b : Text} (hg : c ∉ g)
    (h : g ++ c :: t = a ++ c :: b) :
    a = g ∧ b = t ∨ ∃ a', a = g ++ c :: a' ∧ t = a' ++ c :: b := by
  rcases List.append_eq_append_iff.mp h with ⟨a', rfl, htail⟩ | ⟨g', rfl, htail⟩
  · cases a' with
    | nil => exact .inl ⟨List.append_nil g, (List.cons.inj htail).2.symm⟩
    | cons d a' =>
      obtain ⟨rfl, rfl⟩ := List.cons.inj htail
      exact .inr ⟨a', rfl, rfl⟩
  · cases g' with
    | nil => exact .inl ⟨(List.append_nil a).symm, (List.cons.inj htail).2⟩
    | cons d g' =>
      obtain ⟨rfl, -⟩ := List.cons.inj htail
      exact absurd (by simp) hg

/-! ## Shielded texts -/

namespace Shielded

variable {opening closing : Char}

theorem map_fst_table_number (n : Nat) (rest : List (Text × Text)) :
    (number opening closing n rest).table.map Prod.fst =
      (List.range' n rest.length).map (placeholder opening closing) := by
  induction rest generalizing n with
  | nil => rfl
  | cons e rest ih =>
    rw [number_cons, List.map_cons, ih, List.length_cons, List.range'_succ, List.map_cons]

theorem map_fst_table_number_zero (opening closing : Char) (rest : List (Text × Text)) :
    (number opening closing 0 rest).table.map Prod.fst =
      firstPlaceholders opening closing rest.length := by
  rw [map_fst_table_number, firstPlaceholders, List.range_eq_range']

theorem length_table_number (opening closing : Char) (n : Nat) (rest : List (Text × Text)) :
    (number opening closing n rest).table.length = rest.length := by
  rw [← List.length_map (f := Prod.snd), literals_number, List.length_map]

theorem zip_literals_number (n : Nat) (rest : List (Text × Text)) :
    ((number opening closing n rest).table.map Prod.snd).zip (rest.map Prod.snd) = rest := by
  rw [literals_number]
  exact (List.zip_of_prod rfl rfl).symm

theorem text_number (n : Nat) (rest : List (Text × Text)) :
    (number opening closing n rest).text =
      Layout.restText (((number opening closing n rest).table.map Prod.fst).zip
        (rest.map Prod.snd)) := by
  induction rest generalizing n with
  | nil => rfl
  | cons e rest ih =>
    rw [number_cons, List.map_cons, List.map_cons, List.zip_cons_cons, Layout.restText_cons, ← ih]

/-- Only placeholders hold the opening delimiter, as their first character. -/
theorem exists_isPrefix_of_opening {n : Nat} {rest : List (Text × Text)} {g a b : Text}
    (ho : opening ∈ privateUse) (hne : opening ≠ closing) (hg : opening ∉ g)
    (hrest : ∀ e ∈ rest, opening ∉ e.2)
    (h : g ++ (number opening closing n rest).text = a ++ opening :: b) :
    ∃ e ∈ (number opening closing n rest).table, e.1 <+: opening :: b := by
  induction rest generalizing n g a with
  | nil =>
    rw [number, List.append_nil] at h
    exact absurd (h ▸ by simp) hg
  | cons d rest ih =>
    obtain ⟨literal, gap⟩ := d
    obtain ⟨hgap, hrest⟩ := List.forall_mem_cons.mp hrest
    rw [number_cons] at h ⊢
    have hnext : opening ∉ Text.ofNat n ++ [closing] ++ gap :=
      List.not_mem_append (opening_not_mem_numeral ho hne n) hgap
    rw [placeholder_eq, List.cons_append, ← List.append_assoc (_ ++ _)] at h
    rcases eq_or_exists_of_append_cons_eq hg h with ⟨-, rfl⟩ | ⟨a', -, htail⟩
    · refine ⟨_, List.mem_cons_self, ?_⟩
      rw [placeholder_eq, List.append_assoc]
      exact List.prefix_append _ _
    · obtain ⟨e, he, hp⟩ := ih hnext hrest htail
      exact ⟨e, List.mem_cons_of_mem _ he, hp⟩

/-- Only placeholders hold the closing delimiter, as their last character. -/
theorem exists_isSuffix_of_closing {n : Nat} {rest : List (Text × Text)} {g a b : Text}
    (hc : closing ∈ privateUse) (hne : opening ≠ closing) (hg : closing ∉ g)
    (hrest : ∀ e ∈ rest, closing ∉ e.2)
    (h : g ++ (number opening closing n rest).text = a ++ closing :: b) :
    ∃ e ∈ (number opening closing n rest).table, e.1 <:+ a ++ [closing] := by
  induction rest generalizing n g a with
  | nil =>
    rw [number, List.append_nil] at h
    exact absurd (h ▸ by simp) hg
  | cons d rest ih =>
    obtain ⟨literal, gap⟩ := d
    obtain ⟨hgap, hrest⟩ := List.forall_mem_cons.mp hrest
    rw [number_cons] at h ⊢
    have hbefore : closing ∉ g ++ opening :: Text.ofNat n := by
      simp [not_mem_ofNat hc n, hne.symm, hg]
    have hsplit (t : Text) : g ++ (placeholder opening closing n ++ t) =
        (g ++ opening :: Text.ofNat n) ++ closing :: t := by
      simp [placeholder_eq]
    rw [hsplit] at h
    rcases eq_or_exists_of_append_cons_eq hbefore h with ⟨rfl, -⟩ | ⟨a', rfl, htail⟩
    · refine ⟨_, List.mem_cons_self, g, ?_⟩
      simp [placeholder_eq]
    · obtain ⟨e, he, hs⟩ := ih hgap hrest htail
      refine ⟨e, List.mem_cons_of_mem _ he, hs.trans ?_⟩
      rw [List.append_assoc, List.cons_append]
      exact (List.suffix_cons closing _).trans (List.suffix_append _ _)

/-- Behind a text without delimiters, the placeholders of a numbered text are found one after the
other. -/
theorem found_number {k n : Nat} {rest : List (Text × Text)} {g : Text} (ho : opening ∈ privateUse)
    (hc : closing ∈ privateUse) (hne : opening ≠ closing) (hg : opening ∉ g)
    (hrest : ∀ e ∈ rest, opening ∉ e.2) (hk : n + rest.length ≤ k) :
    found (firstPlaceholders opening closing k) (g ++ (number opening closing n rest).text) =
      (number opening closing n rest).table.map Prod.fst := by
  induction rest generalizing n g with
  | nil =>
    rw [found_firstPlaceholders_append k hg]
    rfl
  | cons d rest ih =>
    obtain ⟨literal, gap⟩ := d
    obtain ⟨hgap, hrest⟩ := List.forall_mem_cons.mp hrest
    rw [List.length_cons] at hk
    rw [number_cons, found_firstPlaceholders_append k hg,
      found_placeholder_append ho hc hne (by omega), ih hgap hrest (by omega), List.map_cons]

theorem eq_of_placeholder_isInfix (ho : opening ∈ privateUse) (hc : closing ∈ privateUse)
    (hne : opening ≠ closing) {m n : Nat}
    (h : placeholder opening closing m <:+: placeholder opening closing n) : m = n := by
  obtain ⟨a, b, h⟩ := h
  rw [placeholder_eq, placeholder_eq, List.append_assoc] at h
  cases a with
  | nil =>
    obtain ⟨-, htail⟩ := List.cons.inj h
    exact eq_of_numeral_isPrefix hc ⟨b, htail⟩
  | cons d a =>
    -- The opening delimiter would stand behind the head.
    refine absurd ?_ (opening_not_mem_numeral ho hne n)
    rw [← (List.cons.inj h).2]
    simp

theorem eq_of_isInfix_of_mem_table (ho : opening ∈ privateUse) (hc : closing ∈ privateUse)
    (hne : opening ≠ closing) {n : Nat} {rest : List (Text × Text)} {e f : Text × Text}
    (he : e ∈ (number opening closing n rest).table)
    (hf : f ∈ (number opening closing n rest).table) (h : e.1 <:+: f.1) : e = f := by
  obtain ⟨⟨k, -, hk⟩, -⟩ := exists_of_mem_table he
  obtain ⟨⟨m, -, hm⟩, -⟩ := exists_of_mem_table hf
  rw [hk, hm] at h
  have heq : e.1 = f.1 := by rw [hk, hm, eq_of_placeholder_isInfix ho hc hne h]
  exact List.inj_on_of_nodup_map (nodup_table n rest) he hf heq

/-- What a shielded source holds. -/
structure Represents (source : Text) (opening closing : Char) (s : Shielded) : Prop where
  /-- The `k`-th placeholder is the numeral of `k` between the delimiters. -/
  placeholders : s.table.map Prod.fst =
    (List.range s.table.length).map fun k => opening :: (Text.ofNat k ++ [closing])
  nodup : (s.table.map Prod.fst).Nodup
  /-- No placeholder is a part of another one. -/
  apart : ∀ e ∈ s.table, ∀ f ∈ s.table, e.1 <:+: f.1 → e = f
  /-- Each placeholder is found once in the text, in the order of the table. -/
  once : found (s.table.map Prod.fst) s.text = s.table.map Prod.fst
  /-- The opening delimiter stands at the head of placeholders only. -/
  isPrefix_of_opening : ∀ a b, s.text = a ++ opening :: b → ∃ e ∈ s.table, e.1 <+: opening :: b
  /-- The closing delimiter stands at the end of placeholders only. -/
  isSuffix_of_closing : ∀ a b, s.text = a ++ closing :: b → ∃ e ∈ s.table, e.1 <:+ a ++ [closing]
  /-- No literal holds a delimiter. -/
  not_mem : ∀ e ∈ s.table, opening ∉ e.2 ∧ closing ∉ e.2
  /-- A literal begins and ends with the same quote. -/
  quoted : ∀ e ∈ s.table, 2 ≤ e.2.length ∧ ∃ q b, (q = '"' ∨ q = '\'') ∧ e.2 = q :: (b ++ [q])
  /-- Between the placeholders stands what the source has between its literals. -/
  gaps : ∃ first gaps, gaps.length = s.table.length ∧
    Layout.of source = ⟨first, (s.table.map Prod.snd).zip gaps⟩ ∧
    source = (⟨first, (s.table.map Prod.snd).zip gaps⟩ : Layout).toText ∧
    s.text = (⟨first, (s.table.map Prod.fst).zip gaps⟩ : Layout).toText

theorem represents_of {source : Text} (hd : delimiters? source = some (opening, closing))
    (hfree : Free source opening closing) : Represents source opening closing (of source) := by
  obtain ⟨ho, hc, hne, hopening, hclosing⟩ := hfree
  obtain ⟨hofirst, horest⟩ := Layout.not_mem_of hopening
  obtain ⟨hcfirst, hcrest⟩ := Layout.not_mem_of hclosing
  have hplaceholders := map_fst_table_number_zero opening closing (Layout.of source).rest
  have hlength := length_table_number opening closing 0 (Layout.of source).rest
  rw [of_eq hd]
  refine
    { placeholders := by rw [hlength]; exact hplaceholders
      nodup := nodup_table 0 _
      apart := fun e he f hf h => eq_of_isInfix_of_mem_table ho hc hne he hf h
      once := ?_
      isPrefix_of_opening := fun a b h =>
        exists_isPrefix_of_opening ho hne hofirst (fun e he => (horest e he).2) h
      isSuffix_of_closing := fun a b h =>
        exists_isSuffix_of_closing hc hne hcfirst (fun e he => (hcrest e he).2) h
      not_mem := fun e he => ?_
      quoted := fun e he => ?_
      gaps := ?_ }
  · exact (congrArg (found · _) hplaceholders).trans
      (found_number ho hc hne hofirst (fun e he => (horest e he).2) (Nat.le_of_eq (Nat.zero_add _)))
  · obtain ⟨-, gap, hgap⟩ := exists_of_mem_table he
    exact ⟨(horest _ hgap).1, (hcrest _ hgap).1⟩
  · obtain ⟨-, gap, hgap⟩ := exists_of_mem_table he
    obtain ⟨q, b, hq, hliteral⟩ := (Layout.proper_of source).2.quoted _ hgap
    have hlength : e.2.length = b.length + 2 := by simpa using congrArg List.length hliteral
    exact ⟨by omega, q, b, hq, hliteral⟩
  · refine ⟨(Layout.of source).first, (Layout.of source).rest.map Prod.snd, ?_, ?_, ?_, ?_⟩
    · rw [List.length_map, hlength]
    · rw [zip_literals_number]
    · rw [zip_literals_number, Layout.toText_of]
    · rw [Layout.toText_eq, ← text_number]

end Shielded

/-- What shielding gives for a source that spares two private-use characters, and for one that does
not. -/
theorem shielded_represents (source : Text) :
    ((∃ c d, c ≠ d ∧ Spares source c ∧ Spares source d) →
      ∃ opening closing, Smallest source opening closing ∧
        Shielded.Represents source opening closing (Shielded.of source)) ∧
    ((¬∃ c d, c ≠ d ∧ Spares source c ∧ Spares source d) → Shielded.of source = ⟨source, []⟩) := by
  rw [← two_le_length_spare_iff]
  constructor
  · intro h
    obtain ⟨opening, closing, r, hs⟩ := exists_spare h
    exact ⟨opening, closing, smallest_of_spare hs,
      Shielded.represents_of (delimiters?_of_spare hs) (free_of_spare hs)⟩
  · intro h
    exact Shielded.of_eq_self (delimiters?_eq_none (Nat.not_le.mp h))

/-- The delimiters pass over what the source uses; a source that uses them all keeps its literals. -/
theorem shielded_represents_used :
    let source := "\ue000 = 'a' + \"b\"".toList
    let placeholders := ["\ue0010\ue002".toList, "\ue0011\ue002".toList]
    let full := privateUse ++ "'a'".toList
    found placeholders (Shielded.of source).text = placeholders ∧ Shielded.of full = ⟨full, []⟩ := by
  intro source placeholders full
  have hspares : ∃ c d, c ≠ d ∧ Spares source c ∧ Spares source d :=
    ⟨'\ue001', '\ue002', by decide, ⟨by decide, by decide, by decide⟩, by decide, by decide, by decide⟩
  obtain ⟨opening, closing, -, hrepresents⟩ := (shielded_represents source).1 hspares
  have hplaceholders : (Shielded.of source).table.map Prod.fst = placeholders := by decide +kernel
  refine ⟨hplaceholders ▸ hrepresents.once, (shielded_represents full).2 ?_⟩
  rintro ⟨c, -, -, ⟨hlo, hhi, hnot⟩, -⟩
  exact hnot (List.mem_append_left _ (mem_privateUse.mpr ⟨hlo, hhi⟩))

end ThaiScript
