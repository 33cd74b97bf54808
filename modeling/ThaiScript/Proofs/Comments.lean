import ThaiScript.Proofs.Exposure

/-!
# Programs without quotes in comments

Where the strings of a program end and no comment holds a quote, the reader and the layout pair
quotes alike: what the reader reads from an opening quote on is the literal that opens there,
`literal_of_opened`. The strings of such a program are its literals, no string is exposed, and
substitution leaves all of them: `strings_substitute_of_quiet`.
-/

namespace ThaiScript

open Lexicon Marked Strings

namespace Strings

/-! ## Stretches inside a string -/

/-- Every character of a text read from `m` belongs to the string that is open. -/
def Inside : Mode → Text → Prop
  | _, [] => True
  | m, c :: t => place m c = .inside ∧ Inside (step m c) t

section
variable {α : Type} {char : α → Char}

theorem collect_of_inside {m : Mode} {xs : List α} (h : Inside m (xs.map char)) (ys : List α) :
    collect char m (xs ++ ys) = (xs ++ (collect char (run char m xs) ys).1,
      (collect char (run char m xs) ys).2) := by
  induction xs generalizing m with
  | nil => rfl
  | cons x xs ih =>
    obtain ⟨hx, hxs⟩ := h
    rw [List.cons_append, collect, ih hxs, hx, run_cons]
    rfl

theorem place_code (c : Char) : place .code c = .outside ∨ place .code c = .first := by
  simp only [place, codePlace]
  split
  · exact .inr rfl
  · exact .inl rfl

theorem collect_code_fst (xs : List α) : (collect char .code xs).1 = [] := by
  cases xs with
  | nil => rfl
  | cons x xs =>
    rw [collect]
    rcases place_code (char x) with h | h <;> rw [h]

end

/-- The string that is open at `m` ends `n` characters behind. -/
def EndsAt (m : Mode) (t : Text) (n : Nat) : Prop :=
  ∃ b u, t = b ++ u ∧ b.length = n ∧ Inside m b ∧ run id m b = .code

theorem endsAt_zero {t : Text} : EndsAt .code t 0 := ⟨[], t, rfl, rfl, trivial, rfl⟩

theorem EndsAt.cons {m m' : Mode} {c : Char} {t : Text} {n : Nat} (h : EndsAt m' t n)
    (hp : place m c = .inside) (hs : step m c = m') : EndsAt m (c :: t) (n + 1) := by
  subst hs
  obtain ⟨b, u, rfl, rfl, hb, hr⟩ := h
  exact ⟨c :: b, u, rfl, rfl, ⟨hp, hb⟩, hr⟩

@[simp] theorem run_broken (t : Text) : run id .broken t = .broken := by
  induction t with
  | nil => rfl
  | cons c t ih => exact ih

/-! ## Strings of one line -/

/-- The modes in a string of one line that no backslash has just escaped. -/
def InLine (q : Quote) (m : Mode) : Prop := m = .line q ∨ m = .lineReturn q

section
variable {q : Quote} {m : Mode}

theorem char_ne_backslash (q : Quote) : q.char ≠ '\\' := by cases q <;> decide

theorem InLine.place_eq (h : InLine q m) (c : Char) : place m c = .inside := by
  rcases h with rfl | rfl <;> rfl

theorem InLine.step_char (h : InLine q m) : step m q.char = .code := by
  rcases h with rfl | rfl <;> cases q <;> rfl

theorem InLine.step_backslash (h : InLine q m) : step m '\\' = .lineEscape q := by
  rcases h with rfl | rfl <;> cases q <;> rfl

theorem InLine.step_other (h : InLine q m) {c : Char} (hq : c ≠ q.char) (hc : c ≠ '\\') :
    step m c = .line q ∨ step m c = .broken := by
  have hline : lineStep q c = .line q ∨ lineStep q c = .broken := by
    rw [lineStep, if_neg hq, if_neg hc]
    split
    · exact .inr rfl
    · exact .inl rfl
  rcases h with rfl | rfl
  · exact hline
  · simp only [step]
    split
    · exact .inl rfl
    · exact hline

theorem inLine_escape (c : Char) : InLine q (step (.lineEscape q) c) := by
  simp only [step]
  split
  · exact .inr rfl
  · exact .inl rfl

theorem InLine.not_closed (h : InLine q m) : m.closed = false := by
  rcases h with rfl | rfl <;> rfl

end

/-- A string of one line that ends does so where a single quote closes. -/
theorem endsAt_of_inLine {q : Quote} {m : Mode} (hm : InLine q m) {t : Text}
    (h : (run id m t).closed = true) : ∃ n, closingAt [q.char] t = some n ∧ EndsAt m t n := by
  fun_induction closingAt [q.char] t generalizing m with
  | case1 =>
    rw [run, List.foldl_nil, hm.not_closed] at h
    cases h
  | case2 c t hp =>
    have hc : q.char = c := by simpa using hp
    subst hc
    exact ⟨1, rfl, endsAt_zero.cons (hm.place_eq _) hm.step_char⟩
  | case3 hp =>
    rw [run_cons, id, hm.step_backslash] at h
    cases h
  | case4 d t hp ih =>
    rw [run_cons, run_cons, id, id, hm.step_backslash] at h
    obtain ⟨n, hn, he⟩ := ih (inLine_escape d) h
    exact ⟨n + 2, by rw [hn]; rfl, (he.cons rfl rfl).cons (hm.place_eq _) hm.step_backslash⟩
  | case5 c t hp hc ih =>
    have hq : c ≠ q.char := fun he => hp (by simp [he])
    rw [run_cons, id] at h
    rcases hm.step_other hq hc with hs | hs <;> rw [hs] at h
    · obtain ⟨n, hn, he⟩ := ih (.inl rfl) h
      exact ⟨n + 1, by rw [hn]; rfl, he.cons (hm.place_eq _) hs⟩
    · rw [run_broken] at h
      cases h

/-! ## Strings with three quotes -/

section
variable {q : Quote} {k : Nat}

theorem step_block_char (hk : k < 2) : step (.block q k) q.char = .block q (k + 1) := by
  rw [step, blockStep, if_pos rfl, if_neg (by omega)]

theorem step_block_char_two : step (.block q 2) q.char = .code := by
  rw [step, blockStep, if_pos rfl, if_pos rfl]

theorem step_block_backslash : step (.block q k) '\\' = .blockEscape q := by
  rw [step, blockStep, if_neg (char_ne_backslash q).symm, if_pos rfl]

theorem step_block_other {c : Char} (hq : c ≠ q.char) (hc : c ≠ '\\') :
    step (.block q k) c = .block q 0 := by
  rw [step, blockStep, if_neg hq, if_neg hc]

/-- Fewer than three quotes close nothing. -/
theorem closingAt_replicate {c : Char} (hc : c ≠ q.char) (hk : k ≤ 2) (t : Text) :
    closingAt [q.char, q.char, q.char] (List.replicate k q.char ++ c :: t) =
      (closingAt [q.char, q.char, q.char] (c :: t)).map (k + ·) := by
  have hone : closingAt [q.char, q.char, q.char] (q.char :: c :: t) =
      (closingAt [q.char, q.char, q.char] (c :: t)).map (· + 1) :=
    closingAt_cons (by simp [hc.symm]) (char_ne_backslash q)
  have htwo : closingAt [q.char, q.char, q.char] (q.char :: q.char :: c :: t) =
      (closingAt [q.char, q.char, q.char] (q.char :: c :: t)).map (· + 1) :=
    closingAt_cons (by simp [hc.symm]) (char_ne_backslash q)
  rcases k with _ | _ | _ | k
  · simp
  · simp [hone, Nat.add_comm 1]
  · simp [htwo, hone, Function.comp_def, Nat.add_comm 2]
  · omega

end

/-- A string with three quotes that ends does so where three quotes close; `k` of them may have been
read already. -/
theorem endsAt_of_block {q : Quote} {k : Nat} (hk : k ≤ 2) {t : Text}
    (h : (run id (.block q k) t).closed = true) :
    ∃ n, closingAt [q.char, q.char, q.char] (List.replicate k q.char ++ t) = some (k + n) ∧
      EndsAt (.block q k) t n := by
  induction hn : t.length using Nat.strong_induction_on generalizing t k with
  | _ _ ih =>
    subst hn
    cases t with
    | nil => cases h
    | cons c t =>
      rw [run_cons, id] at h
      by_cases hq : c = q.char
      · subst hq
        rcases Nat.lt_or_eq_of_le hk with hlt | rfl
        · rw [step_block_char hlt] at h
          obtain ⟨n, hn, he⟩ := ih t.length (by simp) hlt h rfl
          rw [List.replicate_succ', List.append_assoc] at hn
          exact ⟨n + 1, by rw [Nat.add_comm n, ← Nat.add_assoc]; exact hn,
            he.cons rfl (step_block_char hlt)⟩
        · exact ⟨1, closingAt_hit (List.cons_ne_nil _ _) t,
            endsAt_zero.cons rfl step_block_char_two⟩
      · rw [closingAt_replicate hq hk]
        by_cases hc : c = '\\'
        · subst hc
          rw [step_block_backslash] at h
          cases t with
          | nil => cases h
          | cons d t =>
            have hlt : t.length < ('\\' :: d :: t).length := by
              simp only [List.length_cons]
              omega
            obtain ⟨n, hn, he⟩ := ih t.length hlt (Nat.zero_le 2) h rfl
            rw [List.replicate_zero, List.nil_append, Nat.zero_add] at hn
            rw [closingAt_escape (by simp [Ne.symm hq]), hn]
            exact ⟨n + 2, rfl, (he.cons rfl rfl).cons rfl step_block_backslash⟩
        · rw [step_block_other hq hc] at h
          obtain ⟨n, hn, he⟩ := ih t.length (by simp) (Nat.zero_le 2) h rfl
          rw [List.replicate_zero, List.nil_append, Nat.zero_add] at hn
          rw [closingAt_cons (by simp [Ne.symm hq]) hc, hn]
          exact ⟨n + 1, rfl, he.cons rfl (step_block_other hq hc)⟩

/-! ## Strings and literals -/

theorem char_eq (q : Quote) : q.char = '"' ∨ q.char = '\'' := by cases q <;> simp [Quote.char]

theorem EndsAt.opened {q : Quote} {c : Char} {t : Text} {n : Nat} (hc : c ≠ q.char)
    (h : EndsAt (.line q) (c :: t) n) : EndsAt (.opened q) (c :: t) n := by
  obtain ⟨b, u, heq, rfl, hb, hr⟩ := h
  have hs : step (.opened q) c = step (.line q) c := if_neg hc
  cases b with
  | nil => cases hr
  | cons d b =>
    obtain ⟨rfl, rfl⟩ := List.cons.inj heq
    refine ⟨c :: b, u, rfl, rfl, ⟨rfl, ?_⟩, ?_⟩
    · rw [hs]
      exact hb.2
    · rw [run_cons, id, hs]
      exact hr

theorem tripleLength?_eq_none {q : Quote} {t : Text} (h : ¬ [q.char, q.char] <+: t) :
    tripleLength? q.char t = none := by
  rw [tripleLength?, if_neg (by rwa [List.isPrefixOf_iff_prefix])]

/-- A string that ends is the literal that opens with it, up to its end or up to the second of two
quotes. -/
theorem literal_of_opened {q : Quote} {t : Text} (h : (run id (.opened q) t).closed = true) :
    (∃ n, literalLength? (q.char :: t) = some (n + 1) ∧ EndsAt (.opened q) t n) ∨
    ∃ u, t = q.char :: u ∧ u.head? ≠ some q.char ∧ literalLength? (q.char :: t) = some 2 := by
  rw [literalLength?_quote (char_eq q)]
  cases t with
  | nil => cases h
  | cons c t =>
    by_cases hc : c = q.char
    · subst hc
      by_cases ht : t.head? = some q.char
      · left
        obtain ⟨t, rfl⟩ := List.head?_eq_some_iff.mp ht
        have hstep : step (.twice q) q.char = .block q 0 := if_pos rfl
        have hstep' : step (.opened q) q.char = .twice q := if_pos rfl
        rw [run_cons, run_cons, id, hstep', hstep] at h
        obtain ⟨n, hn, he⟩ := endsAt_of_block (Nat.zero_le 2) h
        rw [List.replicate_zero, List.nil_append, Nat.zero_add] at hn
        have hplace : place (.twice q) q.char = .inside := if_pos rfl
        refine ⟨n + 2, ?_, (he.cons hplace hstep).cons rfl hstep'⟩
        simp [tripleLength?, hn]
      · right
        refine ⟨t, rfl, ht, ?_⟩
        have hnot : ¬ [q.char, q.char] <+: q.char :: t := by
          rw [List.prefix_cons_inj]
          rintro ⟨u, rfl⟩
          exact ht rfl
        have hone := closingAt_hit (List.cons_ne_nil q.char []) t
        rw [tripleLength?_eq_none hnot, Option.none_or]
        exact congrArg (Option.map (· + 1)) hone
    · left
      have hs : step (.opened q) c = step (.line q) c := if_neg hc
      rw [run_cons, id, hs] at h
      obtain ⟨n, hn, he⟩ := endsAt_of_inLine (m := .line q) (t := c :: t) (.inl rfl) h
      have hnot : ¬ [q.char, q.char] <+: c :: t := by
        rintro ⟨u, hu⟩
        exact hc (List.cons.inj hu).1.symm
      rw [tripleLength?_eq_none hnot, Option.none_or, hn]
      exact ⟨n, rfl, he.opened hc⟩

/-! ## Quiet comments -/

/-- No comment of a text holds a quote. -/
def Quiet : Mode → Text → Prop
  | _, [] => True
  | m, c :: t => (m = .comment → Quote.ofChar? c = none) ∧ Quiet (step m c) t

theorem quiet_append {m : Mode} {a t : Text} :
    Quiet m (a ++ t) ↔ Quiet m a ∧ Quiet (run id m a) t := by
  induction a generalizing m with
  | nil => simp [Quiet, run]
  | cons c a ih => simp only [List.cons_append, Quiet, ih, run_cons, id, and_assoc]

section
variable {q : Quote}

/-- Behind two quotes and no third, the reader is in code. -/
theorem step_twice {c : Char} (hc : c ≠ q.char) :
    step (.twice q) c = step .code c ∧ place (.twice q) c = place .code c :=
  ⟨if_neg hc, if_neg hc⟩

theorem collect_twice {s : Marked} (hs : s.text.head? ≠ some q.char) :
    collect Prod.fst (.twice q) s = collect Prod.fst .code s := by
  cases s with
  | nil => rfl
  | cons x s =>
    have hx : x.1 ≠ q.char := fun he => hs (congrArg some he)
    rw [collect, collect, (step_twice hx).1, (step_twice hx).2]

theorem closed_run_twice {t : Text} (ht : t.head? ≠ some q.char) :
    (run id (.twice q) t).closed = (run id .code t).closed := by
  cases t with
  | nil => rfl
  | cons c t =>
    have hc : c ≠ q.char := fun he => ht (congrArg some he)
    rw [run_cons, run_cons, id, (step_twice hc).1]

theorem quiet_twice {t : Text} (ht : t.head? ≠ some q.char) (h : Quiet (.twice q) t) :
    Quiet .code t := by
  cases t with
  | nil => trivial
  | cons c t =>
    have hc : c ≠ q.char := fun he => ht (congrArg some he)
    obtain ⟨_, h⟩ := h
    rw [(step_twice hc).1] at h
    exact ⟨fun hm => (by cases hm), h⟩

end

theorem step_of_not_quote {m : Mode} (hm : m = .code ∨ m = .comment) {c : Char}
    (hc : Quote.ofChar? c = none) :
    place m c = .outside ∧ (step m c = .code ∨ step m c = .comment) := by
  rcases hm with rfl | rfl
  · refine ⟨by simp [place, codePlace, hc], ?_⟩
    simp only [step, codeStep, hc]
    split
    · exact .inr rfl
    · exact .inl rfl
  · refine ⟨rfl, ?_⟩
    simp only [step]
    split
    · exact .inl rfl
    · exact .inr rfl

theorem step_code_char (q : Quote) :
    step .code q.char = .opened q ∧ place .code q.char = .first := by
  cases q <;> decide

/-- Behind the literal the reader is in code, and what it has read is one string. -/
theorem collect_opened {q : Quote} {b t : Text}
    (ha : literalLength? (q.char :: (b ++ t)) = some (b.length + 1))
    (h : (run id (.opened q) (b ++ t)).closed = true) (hq : Quiet (.opened q) (b ++ t)) :
    (run id .code t).closed = true ∧ Quiet .code t ∧
      ∀ s : Marked, s.text = t → collect Prod.fst (.opened q) (flag true b ++ s) =
        (flag true b, (collect Prod.fst .code s).2) := by
  rcases literal_of_opened h with ⟨n, hn, b', u, heq, hlen, hb, hr⟩ | ⟨u, heq, hu, hn⟩
  · have hlen' : b.length = b'.length := by
      rw [ha] at hn
      have := Option.some.inj hn
      omega
    obtain ⟨rfl, rfl⟩ := List.append_inj heq hlen'
    rw [run_append, hr] at h
    rw [quiet_append, hr] at hq
    refine ⟨h, hq.2, fun s _ => ?_⟩
    have hmap : (flag true b).map Prod.fst = b := text_flag true b
    have hrun : run Prod.fst (.opened q) (flag true b) = .code := by
      have hid := run_map id Prod.fst (.opened q) (flag true b)
      rw [hmap, hr] at hid
      exact hid.symm
    rw [collect_of_inside (by rwa [hmap]), hrun, collect_code_fst, List.append_nil]
  · rw [ha] at hn
    have hlen : b.length = 1 := Nat.succ.inj (Option.some.inj hn)
    obtain ⟨c, rfl⟩ := List.length_eq_one_iff.mp hlen
    rw [List.singleton_append] at heq h hq
    obtain ⟨rfl, rfl⟩ := List.cons.inj heq
    have hstep : step (.opened q) q.char = .twice q := if_pos rfl
    rw [run_cons, id, hstep, closed_run_twice hu] at h
    rw [Quiet, hstep] at hq
    refine ⟨h, quiet_twice hu hq.2, fun s hs => ?_⟩
    change collect Prod.fst (.opened q) ((q.char, true) :: s) = ([(q.char, true)], _)
    rw [collect, hstep, collect_twice (by rwa [hs]), collect_code_fst]
    rfl

/-- The reader collects the marked stretches, each as one string. -/
theorem collect_marked {m : Mode} (hm : m = .code ∨ m = .comment) {t : Text}
    (h : (run id m t).closed = true) (hq : Quiet m t) :
    (collect Prod.fst m (Layout.of t).marked).2 = (Layout.of t).literals.map (flag true) := by
  induction t using Layout.scan_induction generalizing m with
  | nil => rfl
  | literal a t ha ih =>
    obtain ⟨c, b, rfl⟩ : ∃ c b, a = c :: b := by
      refine List.exists_cons_of_ne_nil fun hnil => ?_
      have hb := (literalLength?_bounds ha).1
      rw [hnil] at hb
      simp at hb
    obtain ⟨q, rfl⟩ : ∃ q : Quote, c = q.char := by
      rcases quote_of_literalLength? ha with rfl | rfl
      · exact ⟨.double, rfl⟩
      · exact ⟨.single, rfl⟩
    obtain ⟨hcomment, hq⟩ := hq
    rw [Quote.ofChar?_eq_some.mpr rfl] at hcomment
    obtain rfl : m = .code := hm.resolve_right fun hm => by cases hcomment hm
    rw [List.cons_append, run_cons, id, (step_code_char q).1] at h
    rw [(step_code_char q).1] at hq
    obtain ⟨hclosed, hquiet, hread⟩ := collect_opened ha h hq
    have hs : (Layout.of t).marked.text = t := by rw [text_marked, Layout.toText_of]
    rw [Layout.of_literal ha, marked_consLiteral]
    change (collect Prod.fst .code ((q.char, true) :: (flag true b ++ (Layout.of t).marked))).2 =
      flag true (q.char :: b) :: (Layout.of t).literals.map (flag true)
    rw [collect, (step_code_char q).1, (step_code_char q).2, hread _ hs,
      ← ih (.inl rfl) hclosed hquiet]
    rfl
  | gap c t hc ih =>
    have hnone : Quote.ofChar? c = none := by
      rcases hm with rfl | rfl
      · by_contra hsome
        obtain ⟨q, hq⟩ := Option.ne_none_iff_exists'.mp hsome
        obtain rfl := Quote.ofChar?_eq_some.mp hq
        rw [run_cons, id, (step_code_char q).1] at h
        rcases literal_of_opened h with ⟨n, hn, _⟩ | ⟨u, _, _, hn⟩ <;> rw [hc] at hn <;> cases hn
      · exact hq.1 rfl
    obtain ⟨hplace, hstep⟩ := step_of_not_quote hm hnone
    rw [run_cons, id] at h
    rw [Layout.of_cons hc]
    change (collect Prod.fst m ((c, false) :: (Layout.of t).marked)).2 =
      (Layout.of t).literals.map (flag true)
    rw [collect, hplace]
    exact ih hstep h hq.2

end Strings

section
variable {source : Text} (h : (strings source).isSome = true) (hq : Quiet .code source)
include h hq

theorem markedStrings_of_quiet :
    markedStrings source = (Layout.of source).literals.map (flag true) := by
  rw [isSome_strings] at h
  exact collect_marked (.inl rfl) h hq

/-- The strings of a program are the literals that are shielded. -/
theorem strings_of_quiet : strings source = some (Layout.of source).literals := by
  rw [strings_eq h, markedStrings_of_quiet h hq, List.map_map]
  simp only [Function.comp_def, text_flag, List.map_id']

/-- No word in a string is translated where no comment holds a quote. -/
theorem strings_substitute_of_quiet (hspare : 2 ≤ (spare source).length) :
    strings (substitute source) = strings source := by
  have hkeep : ∀ a : Text, ((flag true a).mapExposed applyLexicon).text = a := by
    intro a
    have ha := mapExposed_flag_append piecewise_applyLexicon a []
    rw [mapExposed_nil piecewise_applyLexicon, List.append_nil] at ha
    rw [ha, text_flag]
  rw [strings_substitute_eq hspare h, strings_of_quiet h hq, markedStrings_of_quiet h hq,
    List.map_map]
  simp only [Function.comp_def, hkeep, List.map_id']

end

end ThaiScript
