import Mathlib.Data.List.Nodup
import ThaiScript.Proofs.Layout
import ThaiScript.Shield

/-!
# Literals are put back

The delimiters are the first two private-use characters that a source spares, and there are none
just when it spares fewer than two. No gap and no literal holds a delimiter, so in a shielded text
the opening one begins placeholders only, and two numerals are never the same. Hence each pass of
`restore` puts one literal back and leaves the other placeholders: `restore_number`, whatever the
gaps are, and `restore_shielded` for the shielded source itself.
-/

namespace ThaiScript

open Text

/-! ## Delimiters -/

/-- The private-use characters that do not occur in a source. -/
def spare (source : Text) : Text := privateUse.filter fun c => c ∉ source

theorem toNat_privateUse {i : Nat} (h : i < 0x1900) :
    (Char.ofNat (0xE000 + i)).toNat = 0xE000 + i :=
  toNat_ofNat_of_isValidChar (.inr ⟨by omega, by omega⟩)

theorem mem_privateUse {c : Char} : c ∈ privateUse ↔ 0xE000 ≤ c.toNat ∧ c.toNat ≤ 0xF8FF := by
  simp only [privateUse, List.mem_map, List.mem_range]
  constructor
  · rintro ⟨i, hi, rfl⟩
    rw [toNat_privateUse hi]
    omega
  · intro h
    exact ⟨c.toNat - 0xE000, by omega, by rw [Nat.add_sub_cancel' h.1, Char.ofNat_toNat]⟩

theorem privateUse_nodup : privateUse.Nodup := by
  refine List.Nodup.map_on ?_ List.nodup_range
  intro i hi j hj h
  rw [List.mem_range] at hi hj
  have hij := congrArg Char.toNat h
  rw [toNat_privateUse hi, toNat_privateUse hj] at hij
  omega

theorem filter_of_firstUnused {source cs r : Text} {c : Char}
    (h : firstUnused source cs = some (c, r)) :
    cs.filter (fun c => c ∉ source) = c :: r.filter fun c => c ∉ source := by
  induction cs with
  | nil => cases h
  | cons d cs ih =>
    unfold firstUnused at h
    split at h
    · next hd => rw [List.filter_cons_of_neg (by simpa using hd), ih h]
    · next hd =>
      obtain ⟨rfl, rfl⟩ := Prod.mk.inj (Option.some.inj h)
      exact List.filter_cons_of_pos (by simpa using hd)

theorem filter_of_firstUnused_eq_none {source cs : Text} (h : firstUnused source cs = none) :
    cs.filter (fun c => c ∉ source) = [] := by
  induction cs with
  | nil => rfl
  | cons d cs ih =>
    unfold firstUnused at h
    split at h
    · next hd => rw [List.filter_cons_of_neg (by simpa using hd), ih h]
    · cases h

/-- The delimiters are the first two private-use characters that a source spares. -/
theorem delimiters?_eq (source : Text) :
    delimiters? source =
      match spare source with
      | opening :: closing :: _ => some (opening, closing)
      | _ => none := by
  unfold delimiters? spare
  cases ho : firstUnused source privateUse with
  | none => rw [filter_of_firstUnused_eq_none ho]; rfl
  | some e =>
    obtain ⟨opening, others⟩ := e
    have hs := filter_of_firstUnused ho
    cases hc : firstUnused source others with
    | none =>
      rw [filter_of_firstUnused_eq_none hc] at hs
      rw [hs]
      simp [hc]
    | some e =>
      rw [filter_of_firstUnused hc] at hs
      rw [hs]
      simp [hc]

theorem delimiters?_of_spare {source r : Text} {opening closing : Char}
    (h : spare source = opening :: closing :: r) :
    delimiters? source = some (opening, closing) := by
  rw [delimiters?_eq, h]

theorem exists_spare {source : Text} (h : 2 ≤ (spare source).length) :
    ∃ opening closing r, spare source = opening :: closing :: r := by
  rcases hs : spare source with _ | ⟨opening, _ | ⟨closing, r⟩⟩
  · rw [hs] at h; cases h
  · rw [hs] at h; simp at h
  · exact ⟨opening, closing, r, rfl⟩

theorem delimiters?_eq_none {source : Text} (h : (spare source).length < 2) :
    delimiters? source = none := by
  rw [delimiters?_eq]
  split
  · next hs => rw [hs] at h; simp only [List.length_cons] at h; omega
  · rfl

/-- A source uses up no more private-use characters than it is long. -/
theorem le_length_spare_add (source : Text) : 0x1900 ≤ (spare source).length + source.length := by
  have hused : (privateUse.filter fun c => c ∈ source).length ≤ source.length :=
    (privateUse_nodup.filter _).length_le_of_subset fun c hc => by
      simpa using (List.mem_filter.mp hc).2
  have hlen : privateUse.length = 0x1900 := by rw [privateUse, List.length_map, List.length_range]
  have hall := List.length_eq_length_filter_add (l := privateUse) (fun c => decide (c ∈ source))
  simp only [hlen, ← decide_not] at hall
  rw [spare]
  omega

theorem two_le_length_spare {source : Text} (h : source.length < 0x18FF) :
    2 ≤ (spare source).length := by
  have := le_length_spare_add source
  omega

/-- Only which private-use characters a source holds decides on its delimiters. -/
theorem delimiters?_congr {source source' : Text}
    (h : ∀ c ∈ privateUse, c ∈ source ↔ c ∈ source') :
    delimiters? source = delimiters? source' := by
  have hspare : spare source = spare source' :=
    List.filter_congr fun c hc => by simp only [h c hc]
  rw [delimiters?_eq, delimiters?_eq, hspare]

/-- Two private-use characters that are free to mark the places of literals. -/
structure Free (source : Text) (opening closing : Char) : Prop where
  opening_mem : opening ∈ privateUse
  closing_mem : closing ∈ privateUse
  ne : opening ≠ closing
  opening_not_mem : opening ∉ source
  closing_not_mem : closing ∉ source

theorem free_of_spare {source r : Text} {opening closing : Char}
    (h : spare source = opening :: closing :: r) : Free source opening closing := by
  have hnodup : (spare source).Nodup := privateUse_nodup.filter _
  have ho : opening ∈ spare source := by rw [h]; exact List.mem_cons_self
  have hc : closing ∈ spare source := by rw [h]; exact List.mem_cons_of_mem _ List.mem_cons_self
  rw [h] at hnodup
  simp only [spare, List.mem_filter, decide_eq_true_eq] at ho hc
  have hne : opening ≠ closing := by
    rintro rfl
    exact (List.nodup_cons.mp hnodup).1 List.mem_cons_self
  exact ⟨ho.1, hc.1, hne, ho.2, hc.2⟩

theorem delimiters?_cases (source : Text) :
    (∃ opening closing, delimiters? source = some (opening, closing) ∧
      Free source opening closing) ∨ delimiters? source = none := by
  rcases Nat.lt_or_ge (spare source).length 2 with hlt | hle
  · exact .inr (delimiters?_eq_none hlt)
  · obtain ⟨opening, closing, r, hs⟩ := exists_spare hle
    exact .inl ⟨opening, closing, delimiters?_of_spare hs, free_of_spare hs⟩

/-! ## Placeholders -/

theorem ofNat_injective {m n : Nat} (h : Text.ofNat m = Text.ofNat n) : m = n := by
  rw [← Nat.ofDigitChars_ten_toDigits (n := m), ← Nat.ofDigitChars_ten_toDigits (n := n)]
  exact congrArg (fun t => Nat.ofDigitChars 10 t 0) h

theorem isDigit_of_mem_ofNat {c : Char} {n : Nat} (h : c ∈ Text.ofNat n) : c.isDigit = true :=
  Nat.isDigit_of_mem_toDigits (by decide) (by decide) h

theorem not_isDigit_of_mem_privateUse {c : Char} (h : c ∈ privateUse) : ¬ c.isDigit = true := by
  have hc := mem_privateUse.mp h
  intro hd
  simp only [Char.isDigit, Bool.and_eq_true, decide_eq_true_eq, UInt32.le_iff_toNat_le] at hd
  have h9 := hd.2
  change c.toNat ≤ 57 at h9
  omega

theorem not_mem_ofNat {c : Char} (h : c ∈ privateUse) (n : Nat) : c ∉ Text.ofNat n :=
  fun hm => not_isDigit_of_mem_privateUse h (isDigit_of_mem_ofNat hm)

theorem quote_ne_of_mem_privateUse {q c : Char} (hq : q = '"' ∨ q = '\'') (hc : c ∈ privateUse) :
    q ≠ c := by
  rintro rfl
  have hrange := mem_privateUse.mp hc
  rcases hq with rfl | rfl <;> revert hrange <;> decide

section
variable {opening closing : Char}

theorem placeholder_eq (n : Nat) :
    placeholder opening closing n = opening :: (Text.ofNat n ++ [closing]) := rfl

/-- No opening delimiter stands behind the head of a placeholder. -/
theorem opening_not_mem_numeral (ho : opening ∈ privateUse) (hne : opening ≠ closing) (n : Nat) :
    opening ∉ Text.ofNat n ++ [closing] := by
  simp [not_mem_ofNat ho n, hne]

theorem quote_not_mem_placeholder {q : Char} (ho : opening ∈ privateUse)
    (hc : closing ∈ privateUse) (hq : q = '"' ∨ q = '\'') (n : Nat) :
    q ∉ placeholder opening closing n := by
  have hdigit : q ∉ Text.ofNat n := by
    intro hmem
    have hd := isDigit_of_mem_ofNat hmem
    rcases hq with rfl | rfl <;> revert hd <;> decide
  simp [placeholder_eq, hdigit, quote_ne_of_mem_privateUse hq ho, quote_ne_of_mem_privateUse hq hc]

/-- Two numerals between delimiters begin one text only if they are the same. -/
theorem eq_of_numeral_isPrefix (hclosing : closing ∈ privateUse) {m n : Nat} {t : Text}
    (h : Text.ofNat n ++ [closing] <+: Text.ofNat m ++ closing :: t) : n = m := by
  have hn := not_mem_ofNat hclosing n
  have hm := not_mem_ofNat hclosing m
  apply ofNat_injective
  generalize Text.ofNat n = a at h hn
  generalize Text.ofNat m = b at h hm
  induction a generalizing b with
  | nil =>
    cases b with
    | nil => rfl
    | cons d b =>
      simp only [List.nil_append, List.cons_append, List.cons_prefix_cons] at h
      simp [h.1] at hm
  | cons c a ih =>
    cases b with
    | nil =>
      simp only [List.nil_append, List.cons_append, List.cons_prefix_cons] at h
      simp [h.1] at hn
    | cons d b =>
      simp only [List.cons_append, List.cons_prefix_cons] at h
      simp only [List.mem_cons, not_or] at hn hm
      rw [h.1, ih hn.2 b h.2 hm.2]

/-- A pass for one placeholder leaves the others. -/
theorem replaceAll_placeholder_append (ho : opening ∈ privateUse) (hc : closing ∈ privateUse)
    (hne : opening ≠ closing) {m n : Nat} (hmn : n ≠ m) (literal t : Text) :
    replaceAll (placeholder opening closing n) literal (placeholder opening closing m ++ t) =
      placeholder opening closing m ++ replaceAll (placeholder opening closing n) literal t := by
  have hhead : ¬ placeholder opening closing n <+: placeholder opening closing m ++ t := by
    rw [placeholder_eq, placeholder_eq, List.cons_append, List.append_assoc]
    intro h
    exact hmn (eq_of_numeral_isPrefix hc (List.cons_prefix_cons.mp h).2)
  have htail := opening_not_mem_numeral ho hne m
  rw [placeholder_eq m, List.cons_append] at hhead ⊢
  rw [replaceAll_cons_of_not_isPrefix hhead, placeholder_eq n, replaceAll_append_of_not_mem htail]
  rfl

end

/-! ## Restoring -/

@[simp] theorem restore_nil (t : Text) : restore [] t = t := rfl

theorem restore_cons (p literal t : Text) (table : List (Text × Text)) :
    restore ((p, literal) :: table) t = restore table (replaceAll p literal t) := rfl

namespace Shielded

variable {opening closing : Char}

theorem number_cons (n : Nat) (a g : Text) (rest : List (Text × Text)) :
    number opening closing n ((a, g) :: rest) =
      ⟨placeholder opening closing n ++ (g ++ (number opening closing (n + 1) rest).text),
        (placeholder opening closing n, a) :: (number opening closing (n + 1) rest).table⟩ := by
  simp [number]

/-- The table does not depend on the gaps. -/
theorem table_number_map (f : Text → Text) (n : Nat) (rest : List (Text × Text)) :
    (number opening closing n (rest.map fun (literal, gap) => (literal, f gap))).table =
      (number opening closing n rest).table := by
  induction rest generalizing n with
  | nil => rfl
  | cons e rest ih => rw [List.map_cons, number_cons, number_cons, ih]

theorem literals_number (n : Nat) (rest : List (Text × Text)) :
    (number opening closing n rest).table.map (·.2) = rest.map (·.1) := by
  induction rest generalizing n with
  | nil => rfl
  | cons e rest ih => rw [number_cons, List.map_cons, List.map_cons, ih]

theorem opening_mem_of_mem_table {n : Nat} {rest : List (Text × Text)} {e : Text × Text}
    (h : e ∈ (number opening closing n rest).table) : opening ∈ e.1 := by
  induction rest generalizing n with
  | nil => cases h
  | cons d rest ih =>
    rw [number_cons] at h
    rcases List.mem_cons.mp h with rfl | h
    · exact List.mem_cons_self
    · exact ih h

section
variable (ho : opening ∈ privateUse) (hc : closing ∈ privateUse) (hne : opening ≠ closing)
include ho hc hne

/-- A pass for an earlier placeholder finds nothing among the later ones. -/
theorem replaceAll_number {k n : Nat} (hkn : k < n) (literal : Text) {g : Text} (hg : opening ∉ g)
    {rest : List (Text × Text)} (hrest : ∀ e ∈ rest, opening ∉ e.2) :
    replaceAll (placeholder opening closing k) literal
        (g ++ (number opening closing n rest).text) =
      g ++ (number opening closing n rest).text := by
  induction rest generalizing n g with
  | nil =>
    rw [placeholder_eq, replaceAll_append_of_not_mem hg]
    rfl
  | cons e rest ih =>
    have hnext := ih (Nat.lt_succ_of_lt hkn) (hrest e List.mem_cons_self)
      fun d hd => hrest d (List.mem_cons_of_mem e hd)
    rw [number_cons, placeholder_eq k, replaceAll_append_of_not_mem hg, ← placeholder_eq k,
      replaceAll_placeholder_append ho hc hne (Nat.ne_of_lt hkn), hnext]

/-- What restoring gives when no gap and no literal holds the opening delimiter. Each pass puts one
literal back, which then belongs to the text before the next placeholder. -/
theorem restore_number (n : Nat) {g : Text} (hg : opening ∉ g) {rest : List (Text × Text)}
    (hrest : ∀ e ∈ rest, opening ∉ e.1 ∧ opening ∉ e.2) :
    restore (number opening closing n rest).table (g ++ (number opening closing n rest).text) =
      g ++ Layout.restText rest := by
  induction rest generalizing n g with
  | nil => rfl
  | cons e rest ih =>
    obtain ⟨a, b⟩ := e
    obtain ⟨ha, hb⟩ := hrest (a, b) List.mem_cons_self
    have hlater : ∀ d ∈ rest, opening ∉ d.1 ∧ opening ∉ d.2 :=
      fun d hd => hrest d (List.mem_cons_of_mem _ hd)
    have hpass : replaceAll (placeholder opening closing n) a
        (g ++ (placeholder opening closing n ++
          (b ++ (number opening closing (n + 1) rest).text))) =
        g ++ a ++ b ++ (number opening closing (n + 1) rest).text := by
      have hnil : placeholder opening closing n ≠ [] := List.cons_ne_nil _ _
      rw [placeholder_eq n, replaceAll_append_of_not_mem hg, ← placeholder_eq n,
        replaceAll_word_append hnil, replaceAll_number ho hc hne (Nat.lt_succ_self n) a hb
          fun d hd => (hlater d hd).2]
      simp only [List.append_assoc]
    have hgab : opening ∉ g ++ a ++ b := by simp [hg, ha, hb]
    rw [number_cons, restore_cons, hpass, ih (n + 1) hgab hlater, Layout.restText_cons]
    simp only [List.append_assoc]

/-- Restoring a shielded text whose gaps were changed gives its literals between the new gaps. -/
theorem restore_layout {l : Layout} (h : opening ∉ l.toText) :
    restore (number opening closing 0 l.rest).table
        (l.first ++ (number opening closing 0 l.rest).text) = l.toText := by
  obtain ⟨hfirst, hrest⟩ := Layout.not_mem_toText_iff.mp h
  exact restore_number ho hc hne 0 hfirst hrest

end

theorem of_eq {source : Text} (h : delimiters? source = some (opening, closing)) :
    of source = ⟨(Layout.of source).first ++
        (number opening closing 0 (Layout.of source).rest).text,
      (number opening closing 0 (Layout.of source).rest).table⟩ := by
  unfold of
  rw [h]

theorem of_eq_self {source : Text} (h : delimiters? source = none) : of source = ⟨source, []⟩ := by
  unfold of
  rw [h]

theorem literals_of {source : Text} (h : delimiters? source = some (opening, closing)) :
    (of source).table.map (·.2) = (Layout.of source).literals := by
  rw [of_eq h, literals_number]
  rfl

end Shielded

/-- Restoring undoes shielding. -/
theorem restore_shielded (source : Text) :
    restore (Shielded.of source).table (Shielded.of source).text = source := by
  rcases delimiters?_cases source with ⟨opening, closing, hd, hfree⟩ | hd
  · have ho := hfree.opening_not_mem
    rw [← Layout.toText_of source] at ho
    rw [Shielded.of_eq hd, Shielded.restore_layout hfree.opening_mem hfree.closing_mem hfree.ne ho,
      Layout.toText_of]
  · rw [Shielded.of_eq_self hd]
    rfl

end ThaiScript
