import Mathlib.Data.List.Forall2
import ThaiScript.Text.Basic

/-!
# Steps

A step takes a state and gives an answer or an error, and in either case another state. What a
sequence of steps did is peeled apart here, once for the steps of sessions, of interpreters and of
namespaces.
-/

namespace ThaiScript

variable {ε σ α β : Type} {s t : σ}

theorem bind_of_ok {op : EStateM ε σ α} {f : α → EStateM ε σ β} {a : α} (h : op s = .ok a t) :
    (op >>= f) s = f a t := by
  simp only [bind, EStateM.bind, h]

theorem bind_of_error {op : EStateM ε σ α} {f : α → EStateM ε σ β} {e : ε}
    (h : op s = .error e t) : (op >>= f) s = .error e t := by
  simp only [bind, EStateM.bind, h]

theorem bind_eq_ok {op : EStateM ε σ α} {f : α → EStateM ε σ β} {b : β} :
    (op >>= f) s = .ok b t ↔ ∃ a s₁, op s = .ok a s₁ ∧ f a s₁ = .ok b t := by
  cases hop : op s with
  | ok a s₁ =>
    rw [bind_of_ok hop]
    refine ⟨fun h => ⟨a, s₁, rfl, h⟩, ?_⟩
    rintro ⟨_, _, ⟨⟩, h⟩
    exact h
  | error e s₁ => simp [bind_of_error hop]

theorem bind_eq_error {op : EStateM ε σ α} {f : α → EStateM ε σ β} {e : ε} :
    (op >>= f) s = .error e t ↔
      op s = .error e t ∨ ∃ a s₁, op s = .ok a s₁ ∧ f a s₁ = .error e t := by
  cases hop : op s with
  | ok a s₁ =>
    rw [bind_of_ok hop]
    refine ⟨fun h => .inr ⟨a, s₁, rfl, h⟩, ?_⟩
    rintro (h | ⟨_, _, ⟨⟩, h⟩)
    · cases h
    · exact h
  | error e s₁ => simp [bind_of_error hop]

theorem pure_eq_ok {a b : α} : (pure a : EStateM ε σ α) s = .ok b t ↔ a = b ∧ s = t := by
  simp [pure, EStateM.pure]

/-- Steps that go through a list answer for each of its elements. -/
theorem forall₂_of_mapM_eq_ok {f : α → EStateM ε σ β} {as : List α} {bs : List β}
    (h : as.mapM f s = .ok bs t) :
    List.Forall₂ (fun a b => ∃ s₁ s₂, f a s₁ = .ok b s₂) as bs := by
  induction as generalizing s bs with
  | nil =>
    cases h
    exact .nil
  | cons a as ih =>
    rw [List.mapM_cons] at h
    obtain ⟨b, s₁, hb, h⟩ := bind_eq_ok.mp h
    obtain ⟨bs, s₂, hbs, h⟩ := bind_eq_ok.mp h
    cases h
    exact .cons ⟨s, s₁, hb⟩ (ih hbs)

/-- Whether a step gave an answer. -/
def isOk : EStateM.Result ε σ α → Bool
  | .ok _ _ => true
  | .error _ _ => false

/-- The state that a step leaves. -/
def left : EStateM.Result ε σ α → σ
  | .ok _ s => s
  | .error _ s => s

end ThaiScript
