import ThaiScript.Proofs.LiteralPattern
import ThaiScript.Proofs.Shield

/-!
# The scan for literals

A text is read from the left. At a quote, three of them open a literal if three others follow
unescaped, else one opens a literal if another one follows unescaped, and else it is plain text. Any
other character is passed over, a backslash too. `Scanned` says this of a text and its layout, and
`scanned_iff` that each text has one layout.

A literal is recorded where the scan reads one, and there backtracking finds a match of the pattern of
literals: `shielded_eq_split`.
-/

namespace ThaiScript

open Text

/-! ## The scan -/

/-- `closing` stands behind `body`, unescaped and there for the first time. A backslash takes the
character behind it, whatever that is. -/
inductive Closes (closing rest : Text) : (body : Text) → Prop
  | here : Closes closing rest []
  | escape {body : Text} (c : Char) : Closes closing rest body → Closes closing rest ('\\' :: c :: body)
  | later {body : Text} {c : Char} : c ≠ '\\' → ¬ closing <+: c :: (body ++ closing ++ rest) →
      Closes closing rest body → Closes closing rest (c :: body)

/-- `a` is opened by `opening`, and the first `opening` that stands behind it unescaped ends it. -/
def Delimited (opening a rest : Text) : Prop :=
  ∃ body, a = opening ++ body ++ opening ∧ Closes opening rest body

/-- A text that is read from the left into literals and the gaps between them. -/
inductive Scanned : Text → Layout → Prop
  | done : Scanned [] ⟨[], []⟩
  /-- A character that is no quote has no effect. -/
  | gap {c : Char} {t : Text} {l : Layout} : c ≠ '"' → c ≠ '\'' → Scanned t l →
      Scanned (c :: t) (l.cons c)
  /-- Three quotes open a literal if three unescaped ones follow. -/
  | block {q : Char} {a t : Text} {l : Layout} : q = '"' ∨ q = '\'' → Delimited [q, q, q] a t →
      Scanned t l → Scanned (a ++ t) (l.consLiteral a)
  /-- Otherwise a quote opens a literal if an unescaped one follows. -/
  | line {q : Char} {a t : Text} {l : Layout} : q = '"' ∨ q = '\'' →
      (∀ b u, a ++ t = b ++ u → ¬ Delimited [q, q, q] b u) → Delimited [q] a t →
      Scanned t l → Scanned (a ++ t) (l.consLiteral a)
  /-- Otherwise it is plain text. -/
  | lone {q : Char} {t : Text} {l : Layout} : q = '"' ∨ q = '\'' →
      (∀ b u, q :: t = b ++ u → ¬ Delimited [q, q, q] b u ∧ ¬ Delimited [q] b u) →
      Scanned t l → Scanned (q :: t) (l.cons q)

/-! ## What the scan finds -/

section
variable {q : Char} {w : Text}

theorem exists_closes_of_closingAt {t : Text} {n : Nat} (h : closingAt (q :: w) t = some n) :
    ∃ body rest, t = body ++ (q :: w) ++ rest ∧ n = body.length + (q :: w).length ∧
      Closes (q :: w) rest body := by
  fun_induction closingAt (q :: w) t generalizing n with
  | case1 => cases h
  | case2 c t hp =>
    obtain ⟨rest, hrest⟩ := List.isPrefixOf_iff_prefix.mp hp
    exact ⟨[], rest, hrest.symm, by simpa using h.symm, .here⟩
  | case3 => cases h
  | case4 c t hp ih =>
    obtain ⟨m, hm, rfl⟩ := Option.map_eq_some_iff.mp h
    obtain ⟨body, rest, rfl, rfl, hcloses⟩ := ih hm
    refine ⟨'\\' :: c :: body, rest, by simp, ?_, .escape c hcloses⟩
    simp only [List.length_cons]
    omega
  | case5 c t hp hc ih =>
    obtain ⟨m, hm, rfl⟩ := Option.map_eq_some_iff.mp h
    obtain ⟨body, rest, rfl, rfl, hcloses⟩ := ih hm
    rw [List.isPrefixOf_iff_prefix] at hp
    refine ⟨c :: body, rest, by simp, ?_, .later hc hp hcloses⟩
    simp only [List.length_cons]
    omega

variable (hb : q ≠ '\\')
include hb

theorem closingAt_of_closes {body rest : Text} (h : Closes (q :: w) rest body) :
    closingAt (q :: w) (body ++ (q :: w) ++ rest) = some (body.length + (q :: w).length) := by
  induction h with
  | here => simpa using closingAt_hit (List.cons_ne_nil q w) rest
  | @escape body c _ ih =>
    have hp : ¬ (q :: w).isPrefixOf ('\\' :: c :: (body ++ (q :: w) ++ rest)) = true := by simp [hb]
    rw [List.cons_append, List.cons_append, List.cons_append, List.cons_append, closingAt_escape hp,
      ih, Option.map_some]
    refine congrArg some ?_
    simp only [List.length_cons]
    omega
  | @later body c hc hp _ ih =>
    rw [← List.isPrefixOf_iff_prefix] at hp
    rw [List.cons_append, List.cons_append, closingAt_cons hp hc, ih, Option.map_some]
    refine congrArg some ?_
    simp only [List.length_cons]
    omega

theorem delimited_iff {u : Text} {n : Nat} :
    (closingAt (q :: w) u).map (· + (q :: w).length) = some n ↔
      ∃ a r, (q :: w) ++ u = a ++ r ∧ a.length = n ∧ Delimited (q :: w) a r := by
  constructor
  · intro h
    obtain ⟨m, hm, rfl⟩ := Option.map_eq_some_iff.mp h
    obtain ⟨body, rest, rfl, rfl, hcloses⟩ := exists_closes_of_closingAt hm
    refine ⟨(q :: w) ++ body ++ (q :: w), rest, by simp, ?_, body, rfl, hcloses⟩
    simp only [List.length_append]
    omega
  · rintro ⟨a, r, h, rfl, body, rfl, hcloses⟩
    obtain rfl : u = body ++ (q :: w) ++ r := by
      rw [List.append_assoc, List.append_assoc, List.append_right_inj] at h
      rw [h, List.append_assoc]
    rw [closingAt_of_closes hb hcloses, Option.map_some]
    simp only [List.length_append]
    congr 1
    omega

end

section
variable {q : Char} (hq : q = '"' ∨ q = '\'') {t : Text} {n : Nat}
include hq

theorem line_iff :
    (closingAt [q] t).map (· + 1) = some n ↔
      ∃ a r, q :: t = a ++ r ∧ a.length = n ∧ Delimited [q] a r :=
  delimited_iff (quote_ne_backslash hq)

theorem tripleLength?_iff :
    tripleLength? q t = some n ↔
      ∃ a r, q :: t = a ++ r ∧ a.length = n ∧ Delimited [q, q, q] a r := by
  unfold tripleLength?
  split
  · next hp =>
    obtain ⟨t, rfl⟩ := List.isPrefixOf_iff_prefix.mp hp
    exact delimited_iff (quote_ne_backslash hq)
  · next hp =>
    refine ⟨(nomatch ·), ?_⟩
    rintro ⟨a, r, h, -, body, rfl, -⟩
    have ht : t = [q, q] ++ (body ++ [q, q, q] ++ r) := by simpa using h
    exact absurd (List.isPrefixOf_iff_prefix.mpr ⟨_, ht.symm⟩) hp

theorem tripleLength?_eq_none_iff :
    tripleLength? q t = none ↔ ∀ a r, q :: t = a ++ r → ¬ Delimited [q, q, q] a r := by
  rw [Option.eq_none_iff_forall_ne_some]
  simp only [Ne, tripleLength?_iff hq, not_exists, not_and]
  exact ⟨fun h a r ha => h _ a r ha rfl, fun h _ a r ha _ => h a r ha⟩

theorem line_eq_none_iff :
    (closingAt [q] t).map (· + 1) = none ↔ ∀ a r, q :: t = a ++ r → ¬ Delimited [q] a r := by
  rw [Option.eq_none_iff_forall_ne_some]
  simp only [Ne, line_iff hq, not_exists, not_and]
  exact ⟨fun h a r ha => h _ a r ha rfl, fun h _ a r ha _ => h a r ha⟩

end

theorem exists_cut_iff {P : Text → Text → Prop} (a r : Text) :
    (∃ b u, a ++ r = b ++ u ∧ b.length = a.length ∧ P b u) ↔ P a r := by
  refine ⟨?_, fun h => ⟨a, r, rfl, rfl, h⟩⟩
  rintro ⟨b, u, h, hlen, hP⟩
  obtain ⟨rfl, rfl⟩ := List.append_inj h hlen.symm
  exact hP

theorem Delimited.exists_cons {q : Char} {w a r : Text} (h : Delimited (q :: w) a r) :
    ∃ b, a = q :: b := by
  obtain ⟨body, rfl, -⟩ := h
  exact ⟨w ++ body ++ (q :: w), by simp⟩

/-- A literal is a block or, where no block opens, a line. -/
theorem literalLength?_append_iff {a t : Text} :
    literalLength? (a ++ t) = some a.length ↔
      ∃ q, (q = '"' ∨ q = '\'') ∧ (Delimited [q, q, q] a t ∨
        (∀ b u, a ++ t = b ++ u → ¬ Delimited [q, q, q] b u) ∧ Delimited [q] a t) := by
  have hcons : ∀ q b, (q = '"' ∨ q = '\'') → a = q :: b →
      (literalLength? (a ++ t) = some a.length ↔ Delimited [q, q, q] a t ∨
        (∀ b u, a ++ t = b ++ u → ¬ Delimited [q, q, q] b u) ∧ Delimited [q] a t) := by
    intro q b hq ha
    have htriple := tripleLength?_iff hq (t := b ++ t) (n := a.length)
    have hnone := tripleLength?_eq_none_iff hq (t := b ++ t)
    have hline := line_iff hq (t := b ++ t) (n := a.length)
    rw [← List.cons_append, ← ha, exists_cut_iff] at htriple hline
    rw [← List.cons_append, ← ha] at hnone
    have hlen := literalLength?_quote hq (b ++ t)
    rw [← List.cons_append, ← ha] at hlen
    rw [hlen, Option.or_eq_some_iff, htriple, hnone, hline]
  constructor
  · intro h
    cases a with
    | nil =>
      have hb := literalLength?_bounds h
      simp at hb
    | cons q b =>
      have hq := quote_of_literalLength? h
      exact ⟨q, hq, (hcons q b hq rfl).mp h⟩
  · rintro ⟨q, hq, h⟩
    obtain ⟨b, hb⟩ : ∃ b, a = q :: b := h.elim Delimited.exists_cons fun h => h.2.exists_cons
    exact (hcons q b hq hb).mpr h

/-- A literal begins and ends with the same quote. -/
theorem exists_quotes_of_literalLength? {a t : Text} (h : literalLength? (a ++ t) = some a.length) :
    ∃ q b, (q = '"' ∨ q = '\'') ∧ a = q :: (b ++ [q]) := by
  obtain ⟨q, hq, ⟨body, rfl, -⟩ | ⟨-, body, rfl, -⟩⟩ := literalLength?_append_iff.mp h
  · exact ⟨q, [q, q] ++ body ++ [q, q], hq, by simp⟩
  · exact ⟨q, body, hq, by simp⟩

/-- Texts that each begin and end with the same quote, with what follows them. -/
def Quoted (rest : List (Text × Text)) : Prop :=
  ∀ e ∈ rest, ∃ q b, (q = '"' ∨ q = '\'') ∧ e.1 = q :: (b ++ [q])

theorem Layout.ProperRest.quoted {rest : List (Text × Text)} (h : ProperRest rest) :
    Quoted rest := by
  induction rest with
  | nil => exact fun e he => by cases he
  | cons e rest ih =>
    obtain ⟨ha, -, hrest⟩ := h
    exact List.forall_mem_cons.mpr ⟨exists_quotes_of_literalLength? ha, ih hrest⟩

/-- The scan reads every text in one way, into its layout. -/
theorem scanned_iff (t : Text) (l : Layout) : Scanned t l ↔ l = Layout.of t := by
  constructor
  · intro h
    induction h with
    | done => rfl
    | gap hdouble hsingle _ ih =>
      rw [ih, Layout.of_cons (literalLength?_of_not_quote (not_or.mpr ⟨hdouble, hsingle⟩) _)]
    | block hq hblock _ ih =>
      rw [ih, Layout.of_literal (literalLength?_append_iff.mpr ⟨_, hq, .inl hblock⟩)]
    | line hq hno hline _ ih =>
      rw [ih, Layout.of_literal (literalLength?_append_iff.mpr ⟨_, hq, .inr ⟨hno, hline⟩⟩)]
    | lone hq hno _ ih =>
      rw [ih, Layout.of_cons]
      rw [literalLength?_quote hq, (tripleLength?_eq_none_iff hq).mpr fun a r h => (hno a r h).1,
        (line_eq_none_iff hq).mpr fun a r h => (hno a r h).2]
      rfl
  · rintro rfl
    induction t using Layout.scan_induction with
    | nil => exact .done
    | literal a t h ih =>
      rw [Layout.of_literal h]
      obtain ⟨q, hq, hblock | ⟨hno, hline⟩⟩ := literalLength?_append_iff.mp h
      · exact .block hq hblock ih
      · exact .line hq hno hline ih
    | gap c t h ih =>
      rw [Layout.of_cons h]
      by_cases hq : c = '"' ∨ c = '\''
      · rw [literalLength?_quote hq, Option.or_eq_none_iff, tripleLength?_eq_none_iff hq,
          line_eq_none_iff hq] at h
        exact .lone hq (fun a r ha => ⟨h.1 a r ha, h.2 a r ha⟩) ih
      · obtain ⟨hdouble, hsingle⟩ := not_or.mp hq
        exact .gap hdouble hsingle ih

/-! ## The literals of a source -/

/-- Shielding records, each in its place, the literals that a search for the pattern finds by
backtracking from the left; and these are the ones that the scan reads. -/
theorem shielded_eq_split {source : Text} (h : 2 ≤ (spare source).length) :
    ∃ opening closing, delimiters? source = some (opening, closing) ∧
      (let l := literalPattern.split source
      Shielded.of source = ⟨l.first ++ (Shielded.number opening closing 0 l.rest).text,
        (Shielded.number opening closing 0 l.rest).table⟩ ∧
      (Shielded.of source).table.map (·.2) = l.literals ∧ l.toText = source ∧
      ∀ l', Scanned source l' ↔ l' = l) := by
  obtain ⟨opening, closing, r, hspare⟩ := exists_spare h
  have hd := delimiters?_of_spare hspare
  refine ⟨opening, closing, hd, ?_⟩
  rw [split_literalPattern]
  exact ⟨Shielded.of_eq hd, Shielded.literals_of hd, Layout.toText_of source, scanned_iff source⟩

/-- Four quotes open a block, which the first three of four others end; three that no others follow
are an empty line and the quote of the next one. -/
theorem shielded_eq_split_runs :
    (Shielded.of "''''a'''' \"\"\"b\"".toList).table.map (·.2) =
      ["''''a'''".toList, "\"\"".toList, "\"b\"".toList] := by
  have hspare : 2 ≤ (spare "''''a'''' \"\"\"b\"".toList).length :=
    two_le_length_spare (by decide +kernel)
  obtain ⟨opening, closing, -, -, hliterals, -⟩ := shielded_eq_split hspare
  rw [hliterals, split_literalPattern]
  decide +kernel

end ThaiScript
