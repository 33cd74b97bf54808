import ThaiScript.Proofs.Layout

/-!
# Patterns

A pattern can match the head of a text in several ways, which backtracking tries one after the other:
the first of two alternatives before the second, and a repetition that goes on before one that stops.
`Pattern.ends` lists what is left of the text behind each match, in that order. The first one counts,
and a search goes on right behind it: `Pattern.split`.

A repetition leaves no choice when its body has one way at most to match, and none where what follows
the repetition could begin: `flatMap_repeatEnds`.
-/

namespace ThaiScript

/-- What is left behind the repetitions of a match at the head of a text. A match of nothing is not
repeated. -/
def repeatEnds (one : Text → List Text) (t : Text) : List Text :=
  (one t).flatMap (fun r => if _ : r.length < t.length then repeatEnds one r else []) ++ [t]
termination_by t.length

inductive Pattern
  | empty
  /-- A character of a class. -/
  | char (accepts : Char → Bool)
  | seq (a b : Pattern)
  | alt (a b : Pattern)
  /-- As many as possible come first. -/
  | star (a : Pattern)

namespace Pattern

/-- What is left behind each match at the head of a text, in the order of preference. -/
def ends : Pattern → Text → List Text
  | empty, t => [t]
  | char _, [] => []
  | char accepts, c :: t => if accepts c then [t] else []
  | seq a b, t => (a.ends t).flatMap b.ends
  | alt a b, t => a.ends t ++ b.ends t
  | star a, t => repeatEnds a.ends t

/-- The length of the match at the head of a text, when there is one. -/
def matchLength? (p : Pattern) (t : Text) : Option Nat :=
  (p.ends t).head?.map fun r => t.length - r.length

/-- Splits a text into the matches that a search from the left finds, and the gaps between them.
`skip` is the number of characters still to be dropped of a match just found. -/
def splitFrom (p : Pattern) : (skip : Nat) → Text → Layout
  | _, [] => ⟨[], []⟩
  | skip + 1, _ :: t => p.splitFrom skip t
  | 0, c :: t =>
    match p.matchLength? (c :: t) with
    | some (n + 1) => (p.splitFrom n t).consLiteral ((c :: t).take (n + 1))
    | _ => (p.splitFrom 0 t).cons c

def split (p : Pattern) (t : Text) : Layout := p.splitFrom 0 t

/-- A pattern or nothing, rather the pattern. -/
def optional (a : Pattern) : Pattern := alt a empty

def exactly (c : Char) : Pattern := char (· = c)

def anything : Pattern := char fun _ => true

theorem ends_exactly_self (q : Char) (t : Text) : (exactly q).ends (q :: t) = [t] := by
  simp [exactly, ends]

theorem ends_exactly_of_ne {q : Char} {t : Text} (h : ∀ u, t ≠ q :: u) :
    (exactly q).ends t = [] := by
  cases t with
  | nil => rfl
  | cons c t =>
    have hc : c ≠ q := fun hc => h t (by rw [hc])
    simp [exactly, ends, hc]

theorem ends_seq_exactly_self (q : Char) (p : Pattern) (t : Text) :
    (seq (exactly q) p).ends (q :: t) = p.ends t := by
  simp [ends, ends_exactly_self]

theorem ends_seq_exactly_of_ne {q : Char} {t : Text} (h : ∀ u, t ≠ q :: u) (p : Pattern) :
    (seq (exactly q) p).ends t = [] := by
  simp [ends, ends_exactly_of_ne h]

end Pattern

/-! ## Repetitions -/

section
variable {one close : Text → List Text} {t r : Text}

theorem repeatEnds_of_step (h : one t = [r]) (hlt : r.length < t.length) :
    repeatEnds one t = repeatEnds one r ++ [t] := by
  rw [repeatEnds, h]
  simp [hlt]

theorem repeatEnds_of_stop (h : one t = []) : repeatEnds one t = [t] := by
  rw [repeatEnds, h]
  rfl

/-- A repetition without choice: `step` is the one way in which its body matches, if there is one.
What follows the repetition follows the longest one only, as it cannot begin where the body can. -/
theorem flatMap_repeatEnds {step exit : Text → Option Text}
    (hone : ∀ t, one t = (step t).toList)
    (hlt : ∀ t r, step t = some r → r.length < t.length)
    (hstep : ∀ t r, step t = some r → close t = [] ∧ exit t = exit r)
    (hstop : ∀ t, step t = none → close t = (exit t).toList) (t : Text) :
    (repeatEnds one t).flatMap close = (exit t).toList := by
  induction hn : t.length using Nat.strong_induction_on generalizing t with
  | _ n ih =>
    subst hn
    have ht := hone t
    cases h : step t with
    | none =>
      rw [h] at ht
      rw [repeatEnds_of_stop ht, List.flatMap_singleton, hstop t h]
    | some r =>
      rw [h] at ht
      obtain ⟨hclose, hexit⟩ := hstep t r h
      rw [repeatEnds_of_step ht (hlt t r h), List.flatMap_append, List.flatMap_singleton, hclose,
        List.append_nil, hexit]
      exact ih r.length (hlt t r h) r rfl

end

end ThaiScript
