import ThaiScript.Proofs.Pattern

/-!
# The pattern of literals

`literalPattern` describes a literal: three quotes, a stretch in which one or two quotes may stand
where no third one follows, and three quotes; or a quote, a stretch without it, and the quote again.
A backslash and the character behind it stand in either stretch.

In neither stretch is there a choice: the quotes at the head of a text, up to two, belong to the step
that follows them, and where three stand no step begins. So backtracking finds one end at most for
each alternative, the first that is unescaped, and a search for the pattern finds the literals of a
text: `split_literalPattern`.
-/

namespace ThaiScript

open Text

/-! ## The pattern -/

namespace Pattern

/-- A character that is neither the quote nor a backslash. -/
def plain (q : Char) : Pattern := char fun c => c ≠ q && c ≠ '\\'

/-- A backslash and the character behind it. -/
def escaped : Pattern := seq (exactly '\\') anything

/-- One quote or two, rather two. -/
def oneOrTwo (q : Char) : Pattern := seq (exactly q) (optional (exactly q))

def three (q : Char) (p : Pattern) : Pattern :=
  seq (exactly q) (seq (exactly q) (seq (exactly q) p))

/-- What repeats between three quotes and three quotes. -/
def blockBody (q : Char) : Pattern :=
  alt (plain q) (alt escaped (seq (oneOrTwo q) (alt (plain q) escaped)))

/-- What repeats between two quotes. -/
def lineBody (q : Char) : Pattern := alt (plain q) escaped

def block (q : Char) : Pattern := three q (seq (star (blockBody q)) (three q empty))

def line (q : Char) : Pattern := seq (exactly q) (seq (star (lineBody q)) (exactly q))

section
variable {q : Char}

theorem ends_three_self (p : Pattern) (t : Text) :
    (three q p).ends (q :: q :: q :: t) = p.ends t := by
  simp only [three, ends_seq_exactly_self]

theorem ends_three_of_ne {t : Text} (h : ∀ u, t ≠ q :: q :: q :: u) (p : Pattern) :
    (three q p).ends t = [] := by
  unfold three
  by_cases h₁ : ∃ u, t = q :: u
  · obtain ⟨t, rfl⟩ := h₁
    rw [ends_seq_exactly_self]
    by_cases h₂ : ∃ u, t = q :: u
    · obtain ⟨t, rfl⟩ := h₂
      rw [ends_seq_exactly_self]
      exact ends_seq_exactly_of_ne (fun u hu => h u (by rw [hu])) p
    · exact ends_seq_exactly_of_ne (not_exists.mp h₂) _
  · exact ends_seq_exactly_of_ne (not_exists.mp h₁) _

theorem ends_block_of_ne {c : Char} (h : c ≠ q) (t : Text) : (block q).ends (c :: t) = [] :=
  ends_three_of_ne (fun _ hu => h (List.cons.inj hu).1) _

theorem ends_line_of_ne {c : Char} (h : c ≠ q) (t : Text) : (line q).ends (c :: t) = [] :=
  ends_seq_exactly_of_ne (fun _ hu => h (List.cons.inj hu).1) _

end

end Pattern

def literalPattern : Pattern :=
  .alt (.block '"') (.alt (.block '\'') (.alt (.line '"') (.line '\'')))

/-! ## What one step of a stretch leaves -/

/-- What is left behind a character that is not the quote, or behind a backslash and a character. -/
def behindUnit? (q : Char) : Text → Option Text
  | [] => none
  | c :: t => if c = q then none else if c = '\\' then t.tail? else some t

/-- Drops up to so many quotes. -/
def dropQuotes (q : Char) : Nat → Text → Text
  | n + 1, c :: t => if c = q then dropQuotes q n t else c :: t
  | _, t => t

theorem behindUnit?_quote (q : Char) (t : Text) : behindUnit? q (q :: t) = none := if_pos rfl

theorem dropQuotes_of_ne {q : Char} {t : Text} (h : ∀ u, t ≠ q :: u) (n : Nat) :
    dropQuotes q n t = t := by
  cases t with
  | nil => cases n <;> rfl
  | cons c t =>
    have hc : c ≠ q := fun hc => h t (by rw [hc])
    cases n with
    | zero => rfl
    | succ n => exact if_neg hc

/-- What is left behind one step of a stretch between three quotes. -/
def behindBlockUnit? (q : Char) (t : Text) : Option Text := behindUnit? q (dropQuotes q 2 t)

/-- What is left of a text behind the stretch that ends with an unescaped `closing`. -/
def behindClosing? (closing t : Text) : Option Text := (closingAt closing t).map fun n => t.drop n

section
variable {q : Char} (hq : q = '"' ∨ q = '\'')
include hq

theorem quote_ne_backslash : q ≠ '\\' := by
  rcases hq with rfl | rfl <;> decide

theorem ends_lineBody (t : Text) : (Pattern.lineBody q).ends t = (behindUnit? q t).toList := by
  cases t with
  | nil => rfl
  | cons c t =>
    by_cases hc : c = q
    · subst hc
      simp [Pattern.lineBody, Pattern.plain, Pattern.escaped, Pattern.exactly, Pattern.ends,
        behindUnit?, quote_ne_backslash hq]
    · by_cases hb : c = '\\'
      · subst hb
        cases t <;> simp [Pattern.lineBody, Pattern.plain, Pattern.escaped, Pattern.exactly,
          Pattern.anything, Pattern.ends, behindUnit?, hc]
      · simp [Pattern.lineBody, Pattern.plain, Pattern.escaped, Pattern.exactly, Pattern.ends,
          behindUnit?, hc, hb]

/-- The quotes of a step are all that stand there, up to two: a step of one quote before another one
cannot go on. -/
theorem ends_blockBody (t : Text) :
    (Pattern.blockBody q).ends t = (behindBlockUnit? q t).toList := by
  have hunit : ∀ t, (Pattern.plain q).ends t ++ Pattern.escaped.ends t =
      (behindUnit? q t).toList := ends_lineBody hq
  have hbody : (Pattern.blockBody q).ends t = (behindUnit? q t).toList ++
      ((Pattern.oneOrTwo q).ends t).flatMap fun t => (behindUnit? q t).toList := by
    rw [← hunit, List.append_assoc]
    simp only [Pattern.blockBody, Pattern.ends, hunit]
  rw [hbody]
  by_cases h : ∃ u, t = q :: u
  · obtain ⟨t, rfl⟩ := h
    rw [behindUnit?_quote, Pattern.oneOrTwo, Pattern.ends_seq_exactly_self]
    by_cases h : ∃ u, t = q :: u
    · obtain ⟨t, rfl⟩ := h
      simp [Pattern.optional, Pattern.ends, Pattern.ends_exactly_self, behindUnit?_quote,
        behindBlockUnit?, dropQuotes]
    · rw [not_exists] at h
      simp [Pattern.optional, Pattern.ends, Pattern.ends_exactly_of_ne h, behindBlockUnit?,
        dropQuotes, dropQuotes_of_ne h]
  · rw [not_exists] at h
    rw [Pattern.oneOrTwo, Pattern.ends_seq_exactly_of_ne h]
    simp [behindBlockUnit?, dropQuotes_of_ne h]

end

theorem length_lt_of_behindUnit? {q : Char} {t r : Text} (h : behindUnit? q t = some r) :
    r.length < t.length := by
  cases t with
  | nil => cases h
  | cons c t =>
    simp only [behindUnit?] at h
    split at h
    · cases h
    · split at h
      · cases t with
        | nil => cases h
        | cons d t =>
          obtain rfl : t = r := Option.some.inj h
          simp only [List.length_cons]
          omega
      · obtain rfl : t = r := Option.some.inj h
        simp

theorem length_dropQuotes_le (q : Char) (n : Nat) (t : Text) :
    (dropQuotes q n t).length ≤ t.length := by
  fun_induction dropQuotes q n t with
  | case1 n t ih => exact Nat.le_succ_of_le ih
  | case2 => exact Nat.le_refl _
  | case3 => exact Nat.le_refl _

theorem length_lt_of_behindBlockUnit? {q : Char} {t r : Text}
    (h : behindBlockUnit? q t = some r) : r.length < t.length :=
  Nat.lt_of_lt_of_le (length_lt_of_behindUnit? h) (length_dropQuotes_le q 2 t)

/-! ## Stretches -/

section
variable {q : Char} {w t r : Text}

theorem behindClosing?_hit : behindClosing? (q :: w) (q :: (w ++ t)) = some t := by
  have h := closingAt_hit (List.cons_ne_nil q w) t
  rw [List.cons_append] at h
  simp [behindClosing?, h]

theorem behindClosing?_cons {c : Char} (hp : ¬ (q :: w).isPrefixOf (c :: t) = true)
    (hc : c ≠ '\\') : behindClosing? (q :: w) (c :: t) = behindClosing? (q :: w) t := by
  rw [behindClosing?, closingAt_cons hp hc, Option.map_map]
  rfl

/-- A step of a stretch does not pass what closes it. -/
theorem behindClosing?_of_step (h : behindUnit? q t = some r) :
    behindClosing? (q :: w) t = behindClosing? (q :: w) r := by
  cases t with
  | nil => cases h
  | cons c t =>
    simp only [behindUnit?] at h
    split at h
    · cases h
    · next hc =>
      have hp : ∀ u, ¬ (q :: w).isPrefixOf (c :: u) = true := by simp [Ne.symm hc]
      split at h
      · next hb =>
        subst hb
        cases t with
        | nil => cases h
        | cons d t =>
          obtain rfl : t = r := Option.some.inj h
          rw [behindClosing?, closingAt_escape (hp _), Option.map_map]
          rfl
      · next hb =>
        obtain rfl : t = r := Option.some.inj h
        exact behindClosing?_cons (hp t) hb

/-- A stretch that stops before a quote is reached is not closed. -/
theorem behindClosing?_of_stop (hne : ∀ u, t ≠ q :: u) (h : behindUnit? q t = none) :
    behindClosing? (q :: w) t = none := by
  cases t with
  | nil => rfl
  | cons c t =>
    have hc : c ≠ q := fun hc => hne t (by rw [hc])
    simp only [behindUnit?, if_neg hc] at h
    split at h
    · next hb =>
      subst hb
      cases t with
      | nil => simp [behindClosing?, closingAt, Ne.symm hc]
      | cons d t => cases h
    · cases h

end

theorem ne_quote_of_step {q : Char} {t r : Text} (h : behindUnit? q t = some r) (u : Text) :
    t ≠ q :: u := by
  rintro rfl
  rw [behindUnit?_quote] at h
  cases h

section
variable {q : Char} (hq : q = '"' ∨ q = '\'')
include hq

/-- Between two quotes the repetition goes on to the closing one, and no further. -/
theorem flatMap_repeatEnds_lineBody (t : Text) :
    (repeatEnds (Pattern.lineBody q).ends t).flatMap (Pattern.exactly q).ends =
      (behindClosing? [q] t).toList := by
  refine flatMap_repeatEnds (ends_lineBody hq) (fun _ _ => length_lt_of_behindUnit?) ?_ ?_ t
  · intro t r h
    exact ⟨Pattern.ends_exactly_of_ne (ne_quote_of_step h), behindClosing?_of_step h⟩
  · intro t h
    by_cases hquote : ∃ u, t = q :: u
    · obtain ⟨u, rfl⟩ := hquote
      rw [Pattern.ends_exactly_self]
      exact congrArg Option.toList (behindClosing?_hit (w := [])).symm
    · rw [not_exists] at hquote
      rw [Pattern.ends_exactly_of_ne hquote, behindClosing?_of_stop hquote h]
      rfl

/-- A quote before which two others do not follow closes no block. -/
theorem behindClosing?_quote {t : Text} (h : ∀ u, t ≠ q :: q :: u) :
    behindClosing? [q, q, q] (q :: t) = behindClosing? [q, q, q] t := by
  refine behindClosing?_cons (fun hp => ?_) (quote_ne_backslash hq)
  obtain ⟨u, hu⟩ := List.isPrefixOf_iff_prefix.mp hp
  exact h u (List.cons.inj hu).2.symm

/-- Either three quotes stand at the head of a text, or what stands behind its quotes is no quote and
is closed where the text is. -/
theorem three_or_dropQuotes (t : Text) :
    (∃ u, t = q :: q :: q :: u) ∨
      (∀ u, t ≠ q :: q :: q :: u) ∧ (∀ u, dropQuotes q 2 t ≠ q :: u) ∧
        behindClosing? [q, q, q] (dropQuotes q 2 t) = behindClosing? [q, q, q] t := by
  by_cases h₁ : ∃ u, t = q :: u
  · obtain ⟨t, rfl⟩ := h₁
    by_cases h₂ : ∃ u, t = q :: u
    · obtain ⟨t, rfl⟩ := h₂
      by_cases h₃ : ∃ u, t = q :: u
      · obtain ⟨t, rfl⟩ := h₃
        exact .inl ⟨t, rfl⟩
      · rw [not_exists] at h₃
        have hdrop : dropQuotes q 2 (q :: q :: t) = t := by simp [dropQuotes]
        have hone : ∀ u, q :: t ≠ q :: q :: u := fun u hu => h₃ u (List.cons.inj hu).2
        refine .inr ⟨fun u hu => hone _ (List.cons.inj hu).2, ?_⟩
        rw [hdrop, behindClosing?_quote hq hone, behindClosing?_quote hq fun u => h₃ _]
        exact ⟨h₃, rfl⟩
    · rw [not_exists] at h₂
      have hdrop : dropQuotes q 2 (q :: t) = t := by simp [dropQuotes, dropQuotes_of_ne h₂]
      refine .inr ⟨fun u hu => h₂ _ (List.cons.inj hu).2, ?_⟩
      rw [hdrop, behindClosing?_quote hq fun u => h₂ _]
      exact ⟨h₂, rfl⟩
  · rw [not_exists] at h₁
    have hdrop : dropQuotes q 2 t = t := dropQuotes_of_ne h₁ 2
    refine .inr ⟨fun u => h₁ _, ?_⟩
    rw [hdrop]
    exact ⟨h₁, rfl⟩

/-- Between three quotes the repetition goes on to the closing ones, and no further. -/
theorem flatMap_repeatEnds_blockBody (t : Text) :
    (repeatEnds (Pattern.blockBody q).ends t).flatMap (Pattern.three q .empty).ends =
      (behindClosing? [q, q, q] t).toList := by
  refine flatMap_repeatEnds (ends_blockBody hq) (fun _ _ => length_lt_of_behindBlockUnit?) ?_ ?_ t
  · intro t r h
    obtain ⟨u, rfl⟩ | ⟨hthree, -, hdrop⟩ := three_or_dropQuotes hq t
    · simp [behindBlockUnit?, dropQuotes, behindUnit?_quote] at h
    · exact ⟨Pattern.ends_three_of_ne hthree _, hdrop.symm.trans (behindClosing?_of_step h)⟩
  · intro t h
    obtain ⟨u, rfl⟩ | ⟨hthree, hne, hdrop⟩ := three_or_dropQuotes hq t
    · rw [Pattern.ends_three_self]
      exact congrArg Option.toList (behindClosing?_hit (w := [q, q])).symm
    · rw [Pattern.ends_three_of_ne hthree, ← hdrop, behindClosing?_of_stop hne h]
      rfl

/-! ## Matches -/

/-- What is left behind the block that `q` opens before `t`. -/
def behindBlock? (q : Char) (t : Text) : Option Text :=
  if [q, q].isPrefixOf t then behindClosing? [q, q, q] (t.drop 2) else none

theorem ends_block (t : Text) : (Pattern.block q).ends (q :: t) = (behindBlock? q t).toList := by
  unfold behindBlock? Pattern.block
  split
  · next hp =>
    obtain ⟨t, rfl⟩ := List.isPrefixOf_iff_prefix.mp hp
    exact (Pattern.ends_three_self _ t).trans (flatMap_repeatEnds_blockBody hq t)
  · next hp =>
    refine Pattern.ends_three_of_ne (fun u hu => hp ?_) _
    rw [(List.cons.inj hu).2]
    exact List.isPrefixOf_iff_prefix.mpr ⟨u, rfl⟩

theorem ends_line (t : Text) :
    (Pattern.line q).ends (q :: t) = (behindClosing? [q] t).toList :=
  (Pattern.ends_seq_exactly_self q _ t).trans (flatMap_repeatEnds_lineBody hq t)

/-- A quote opens a block rather than a line. -/
theorem ends_literalPattern (t : Text) :
    literalPattern.ends (q :: t) =
      (behindBlock? q t).toList ++ (behindClosing? [q] t).toList := by
  rw [← ends_block hq, ← ends_line hq]
  rcases hq with rfl | rfl
  · have hne : '"' ≠ '\'' := by decide
    simp [literalPattern, Pattern.ends, Pattern.ends_block_of_ne hne, Pattern.ends_line_of_ne hne]
  · have hne : '\'' ≠ '"' := by decide
    simp [literalPattern, Pattern.ends, Pattern.ends_block_of_ne hne, Pattern.ends_line_of_ne hne]

end

theorem ends_literalPattern_of_not_quote {c : Char} (h : ¬ (c = '"' ∨ c = '\'')) (t : Text) :
    literalPattern.ends (c :: t) = [] := by
  obtain ⟨hdouble, hsingle⟩ := not_or.mp h
  simp [literalPattern, Pattern.ends, Pattern.ends_block_of_ne hdouble, Pattern.ends_line_of_ne hdouble,
    Pattern.ends_block_of_ne hsingle, Pattern.ends_line_of_ne hsingle]

theorem map_behindClosing? (closing p t : Text) :
    (behindClosing? closing t).map (fun r => (p ++ t).length - r.length) =
      (closingAt closing t).map (· + p.length) := by
  unfold behindClosing?
  cases h : closingAt closing t with
  | none => rfl
  | some n =>
    have hle := (length_le_of_closingAt h).2
    simp only [Option.map_some, List.length_append, List.length_drop]
    congr 1
    omega

theorem map_behindBlock? (q : Char) (t : Text) :
    (behindBlock? q t).map (fun r => (q :: t).length - r.length) = tripleLength? q t := by
  unfold behindBlock? tripleLength?
  split
  · next hp =>
    obtain ⟨t, rfl⟩ := List.isPrefixOf_iff_prefix.mp hp
    exact map_behindClosing? [q, q, q] [q, q, q] t
  · rfl

/-- The match at the head of a text is the literal there. -/
theorem matchLength?_literalPattern (t : Text) :
    literalPattern.matchLength? t = literalLength? t := by
  cases t with
  | nil => rfl
  | cons q t =>
    unfold Pattern.matchLength?
    by_cases hq : q = '"' ∨ q = '\''
    · have hhead : ∀ a b : Option Text, (a.toList ++ b.toList).head? = a.or b := by
        intro a b
        cases a <;> cases b <;> rfl
      rw [ends_literalPattern hq, hhead, Option.map_or, map_behindBlock?, literalLength?_quote hq]
      congr 1
      exact map_behindClosing? [q] [q] t
    · rw [ends_literalPattern_of_not_quote hq, literalLength?_of_not_quote hq]
      rfl

/-- A search for the pattern finds the literals of the text. -/
theorem split_literalPattern (t : Text) : literalPattern.split t = Layout.of t := by
  suffices h : ∀ skip, literalPattern.splitFrom skip t = Layout.scan skip t from h 0
  induction t with
  | nil => intro skip; cases skip <;> rfl
  | cons c t ih =>
    intro skip
    cases skip with
    | succ skip => exact ih skip
    | zero =>
      rw [Pattern.splitFrom, Layout.scan, matchLength?_literalPattern]
      cases h : literalLength? (c :: t) with
      | none => simp only [ih]
      | some n =>
        obtain ⟨m, rfl⟩ : ∃ m, n = m + 1 :=
          ⟨n - 1, by have := (literalLength?_bounds h).1; omega⟩
        simp only [ih, Nat.add_sub_cancel]

end ThaiScript
