import ThaiScript.Proofs.Scan

/-!
# Escapes in a shielded text

A quote is plain text when every further quote of its kind behind it is escaped. A literal ends
with a quote and a placeholder with a delimiter, so behind either no backslash waits for the
character that it escapes, whatever stood before. Hence the quotes that are left in a shielded text
are escaped just as they were, and no literal opens in it: `shielded_shielded`.
-/

namespace ThaiScript

open Text

/-! ## Escaped quotes -/

/-- Whether the character behind `t` is escaped, when the first one of `t` is escaped or is not. -/
def escapes (escaped : Bool) (t : Text) : Bool :=
  t.foldl (fun escaped c => !escaped && c == '\\') escaped

theorem escapes_append (b : Bool) (s t : Text) : escapes b (s ++ t) = escapes (escapes b s) t :=
  List.foldl_append

/-- What stands before a character that is no backslash has no say in what is escaped behind it. -/
theorem escapes_concat {c : Char} (hc : c ≠ '\\') (b : Bool) (t : Text) :
    escapes b (t ++ [c]) = false := by
  rw [escapes_append, escapes, List.foldl_cons, List.foldl_nil, beq_eq_false_iff_ne.mpr hc,
    Bool.and_false]

/-- Every `q` in a text is escaped. -/
def Escaped (q : Char) (escaped : Bool) (t : Text) : Prop :=
  ∀ a b, t = a ++ q :: b → escapes escaped a = true

section
variable {q : Char} {b : Bool}

theorem escaped_nil : Escaped q b [] := by
  intro a d h
  simp at h

theorem escaped_cons {c : Char} {t : Text} :
    Escaped q b (c :: t) ↔ (c = q → b = true) ∧ Escaped q (!b && c == '\\') t := by
  constructor
  · intro h
    exact ⟨fun hc => h [] t (by rw [hc]; rfl), fun a d ht => h (c :: a) d (by rw [ht]; rfl)⟩
  · rintro ⟨hhead, htail⟩ a d h
    cases a with
    | nil => exact hhead (List.cons.inj h).1
    | cons e a =>
      obtain ⟨rfl, rfl⟩ := List.cons.inj h
      exact htail a d rfl

theorem escaped_append {s t : Text} :
    Escaped q b (s ++ t) ↔ Escaped q b s ∧ Escaped q (escapes b s) t := by
  induction s generalizing b with
  | nil => simp [escaped_nil, escapes]
  | cons c s ih =>
    rw [List.cons_append, escaped_cons, escaped_cons, ih, and_assoc]
    rfl

theorem escaped_of_not_mem {t : Text} (h : q ∉ t) : Escaped q b t := by
  rintro a d rfl
  simp at h

/-- An attempt to close fails just when every closing quote is escaped. -/
theorem closingAt_eq_none_iff (hq : q ≠ '\\') (t : Text) :
    closingAt [q] t = none ↔ Escaped q false t := by
  fun_induction closingAt [q] t with
  | case1 => simp [escaped_nil]
  | case2 c t hp =>
    have hc : q = c := by simpa using hp
    simp [escaped_cons, hc]
  | case3 hp => simp [escaped_cons, hq.symm, escaped_nil]
  | case4 d t hp ih =>
    rw [Option.map_eq_none_iff, ih, escaped_cons, escaped_cons]
    simp [hq.symm]
  | case5 c t hp hc ih =>
    have hne : c ≠ q := fun heq => hp (by simp [heq])
    rw [Option.map_eq_none_iff, ih, escaped_cons, beq_eq_false_iff_ne.mpr hc]
    simp [hne]

end

section
variable {q : Char} (hq : q = '"' ∨ q = '\'')
include hq

/-- Three quotes hold an empty literal, so what opens no literal with one quote opens none. -/
theorem literalLength?_eq_none_iff (t : Text) :
    literalLength? (q :: t) = none ↔ Escaped q false t := by
  rw [literalLength?_quote hq, Option.or_eq_none_iff, Option.map_eq_none_iff,
    closingAt_eq_none_iff (quote_ne_backslash hq)]
  refine and_iff_right_of_imp fun h => if_neg fun hp => ?_
  obtain ⟨u, rfl⟩ := List.isPrefixOf_iff_prefix.mp hp
  rw [List.cons_append, escaped_cons] at h
  cases h.1 rfl

end

/-! ## Literals and placeholders -/

section
variable {opening closing : Char}

theorem placeholder_eq_concat (n : Nat) :
    placeholder opening closing n = (opening :: Text.ofNat n) ++ [closing] := rfl

theorem escapes_literal {a : Text} (h : ∃ q b, (q = '"' ∨ q = '\'') ∧ a = q :: (b ++ [q]))
    (b : Bool) : escapes b a = false := by
  obtain ⟨q, d, hq, rfl⟩ := h
  exact escapes_concat (quote_ne_backslash hq) b (q :: d)

variable (hc : closing ∈ privateUse)
include hc

theorem escapes_placeholder (b : Bool) (n : Nat) :
    escapes b (placeholder opening closing n) = false := by
  have hne : closing ≠ '\\' := by
    rintro rfl
    revert hc
    rw [mem_privateUse]
    decide
  rw [placeholder_eq_concat, escapes_concat hne]

/-- Putting placeholders for literals changes nothing about what is escaped. -/
theorem escapes_number {rest : List (Text × Text)} (hrest : Quoted rest) (b : Bool) (g : Text)
    (n : Nat) : escapes b (g ++ (Shielded.number opening closing n rest).text) =
      escapes b (g ++ Layout.restText rest) := by
  induction rest generalizing b g n with
  | nil => rfl
  | cons e rest ih =>
    obtain ⟨a, d⟩ := e
    rw [Quoted, List.forall_mem_cons] at hrest
    rw [Shielded.number_cons, Layout.restText_cons, escapes_append, escapes_append,
      escapes_placeholder hc, ih hrest.2, escapes_append b, escapes_append _ a,
      escapes_literal hrest.1]

variable (ho : opening ∈ privateUse)
include ho

theorem escaped_number {q : Char} (hq : q = '"' ∨ q = '\'') {rest : List (Text × Text)}
    (hrest : Quoted rest) {b : Bool} {g : Text} (n : Nat)
    (h : Escaped q b (g ++ Layout.restText rest)) :
    Escaped q b (g ++ (Shielded.number opening closing n rest).text) := by
  induction rest generalizing b g n with
  | nil => exact h
  | cons e rest ih =>
    obtain ⟨a, d⟩ := e
    rw [Quoted, List.forall_mem_cons] at hrest
    rw [Layout.restText_cons, escaped_append, escaped_append, escapes_literal hrest.1] at h
    obtain ⟨hgap, -, hbehind⟩ := h
    rw [Shielded.number_cons, escaped_append, escaped_append, escapes_placeholder hc]
    exact ⟨hgap, escaped_of_not_mem (quote_not_mem_placeholder ho hc hq n),
      ih hrest.2 (n + 1) hbehind⟩

end

/-! ## Shielding twice -/

namespace Layout

theorem quiet_append {g d t : Text} (hg : Quiet g (d ++ t)) (hd : Quiet d t) :
    Quiet (g ++ d) t := by
  induction g with
  | nil => exact hd
  | cons c g ih =>
    have hc := hg [] c g rfl
    rw [List.cons_append, ← List.append_assoc] at hc
    exact quiet_cons hc (ih fun a e b h => hg (c :: a) e b (by rw [h]; rfl))

theorem quiet_of_not_mem {g : Text} (h : ∀ q, q = '"' ∨ q = '\'' → q ∉ g) (t : Text) :
    Quiet g t := by
  rintro a c b rfl
  exact literalLength?_of_not_quote (fun hq => h c hq (by simp)) _

variable {opening closing : Char} (ho : opening ∈ privateUse) (hc : closing ∈ privateUse)
include ho hc

/-- No literal opens in a gap when placeholders follow in place of the literals. -/
theorem quiet_number {rest : List (Text × Text)} (h : Quoted rest) {g : Text}
    (hg : Quiet g (restText rest)) (n : Nat) :
    Quiet g (Shielded.number opening closing n rest).text := by
  intro a c b hcut
  by_cases hq : c = '"' ∨ c = '\''
  · have hnone := hg a c b hcut
    rw [List.cons_append, literalLength?_eq_none_iff hq] at hnone ⊢
    exact escaped_number hc ho hq h n hnone
  · exact literalLength?_of_not_quote hq _

theorem ProperRest.quiet_number {rest : List (Text × Text)} (h : ProperRest rest) (n : Nat) :
    Quiet (Shielded.number opening closing n rest).text [] := by
  induction rest generalizing n with
  | nil => exact quiet_nil []
  | cons e rest ih =>
    obtain ⟨a, g⟩ := e
    obtain ⟨-, hg, hrest⟩ := h
    have hplace : Quiet (placeholder opening closing n)
        (g ++ (Shielded.number opening closing (n + 1) rest).text ++ []) :=
      quiet_of_not_mem (fun q hq => quote_not_mem_placeholder ho hc hq n) _
    have hgap := Layout.quiet_number ho hc hrest.quoted hg (n + 1)
    rw [Shielded.number_cons]
    exact quiet_append hplace (quiet_append (by rwa [List.append_nil]) (ih hrest (n + 1)))

end Layout

/-- No literal opens in a shielded text. -/
theorem Shielded.layout_text {source : Text} {opening closing : Char}
    (hd : delimiters? source = some (opening, closing)) (hfree : Free source opening closing) :
    Layout.of (Shielded.of source).text = ⟨(Shielded.of source).text, []⟩ := by
  have ho := hfree.opening_mem
  have hc := hfree.closing_mem
  obtain ⟨hfirst, hrest⟩ := Layout.proper_of source
  have hgap : Layout.Quiet (Layout.of source).first
      (Shielded.number opening closing 0 (Layout.of source).rest).text :=
    Layout.quiet_number ho hc hrest.quoted hfirst 0
  have hquiet : Layout.Quiet (Shielded.of source).text [] := by
    rw [Shielded.of_eq hd]
    exact Layout.quiet_append (by rwa [List.append_nil]) (hrest.quiet_number ho hc 0)
  have hlayout := Layout.of_append_of_quiet hquiet
  rw [List.append_nil] at hlayout
  rw [hlayout]
  exact congrArg (Layout.mk · []) (List.append_nil _)

theorem Shielded.of_text (source : Text) :
    Shielded.of (Shielded.of source).text = ⟨(Shielded.of source).text, []⟩ := by
  rcases delimiters?_cases source with ⟨opening, closing, hd, hfree⟩ | hd
  · generalize htext : (Shielded.of source).text = t
    have hlayout := Shielded.layout_text hd hfree
    rw [htext] at hlayout
    rcases delimiters?_cases t with ⟨opening', closing', hd', -⟩ | hd'
    · rw [Shielded.of_eq hd', hlayout]
      exact congrArg (Shielded.mk · []) (List.append_nil t)
    · exact Shielded.of_eq_self hd'
  · rw [Shielded.of_eq_self hd]
    exact Shielded.of_eq_self hd

/-- Shielding leaves nothing to shield: no literal opens in a shielded text, and shielding it again
changes nothing. From a place outside of the literals to another one, with literals and gaps between
them, what is escaped in the shielded text is what is escaped in the source. -/
theorem shielded_shielded (source : Text) :
    Shielded.of (Shielded.of source).text = ⟨(Shielded.of source).text, []⟩ ∧
    ∀ opening closing, delimiters? source = some (opening, closing) →
      Layout.of (Shielded.of source).text = ⟨(Shielded.of source).text, []⟩ ∧
      ∀ between, (∀ e ∈ between, e.1 ∈ (Layout.of source).literals) → ∀ b g n,
        escapes b (g ++ (Shielded.number opening closing n between).text) =
          escapes b (g ++ Layout.restText between) := by
  refine ⟨Shielded.of_text source, fun opening closing hd => ?_⟩
  have hfree : Free source opening closing := by
    rcases delimiters?_cases source with ⟨opening', closing', hd', hfree⟩ | hd'
    · cases hd.symm.trans hd'
      exact hfree
    · cases hd.symm.trans hd'
  refine ⟨Shielded.layout_text hd hfree, fun between hbetween b g n => ?_⟩
  have hquoted : Quoted between := by
    intro e he
    obtain ⟨d, hd, heq⟩ := List.mem_map.mp (hbetween e he)
    rw [← heq]
    exact (Layout.proper_of source).2.quoted d hd
  exact escapes_number hfree.closing_mem hquoted b g n

/-- A backslash before a literal escapes the quote that opens it, and then the delimiter that stands
there; the quote behind the literal is escaped by a backslash of its own both times. -/
theorem shielded_shielded_lone :
    Shielded.of "\"\\\ue0000\ue001\\\"".toList = ⟨"\"\\\ue0000\ue001\\\"".toList, []⟩ ∧
      Layout.of "\"\\\ue0000\ue001\\\"".toList = ⟨"\"\\\ue0000\ue001\\\"".toList, []⟩ ∧
      escapes false "\\\ue0000\ue001\\".toList = escapes false "\\'a'\\".toList := by
  have htext : (Shielded.of "\"\\'a'\\\"".toList).text = "\"\\\ue0000\ue001\\\"".toList := by
    decide +kernel
  obtain ⟨hagain, hdelimited⟩ := shielded_shielded "\"\\'a'\\\"".toList
  obtain ⟨hlayout, hescapes⟩ := hdelimited '\ue000' '\ue001' (by decide +kernel)
  rw [htext] at hagain hlayout
  exact ⟨hagain, hlayout, hescapes [("'a'".toList, "\\".toList)] (by decide +kernel) false
    "\\".toList 0⟩

end ThaiScript
