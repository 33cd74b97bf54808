import ThaiScript.Machine.Interpreter
import ThaiScript.Proofs.Steps

/-!
# The code of a script that exits

A script that asks to exit gives the attribute `code` of its exception as a code. `Gives` says what
that amounts to: nothing, an integer, something else, or an attribute that cannot be read. A truth
value counts as an integer, and so does an object that stands for one: `CountsAs`. This is how the
interpreter reads codes (`gives_of_exitCode`), and a program that raises such an exception ends with the
code that it gives (`run_eq_exited_iff`).
-/

namespace ThaiScript.Machine

variable {α β : Type} {v : Value} {w w' : World State} {n : Int}

/-! ## Steps of a run -/

/-- A step that gives an answer instead of the exception that it meets. -/
theorem ok_or_raised {op : Run α} {handler : Signal → Run α} {a b : α}
    (h : tryCatch op handler w = .ok b w') (hraised : ∀ e, handler (.raised e) = pure a)
    (hexhausted : handler .exhausted = throw .exhausted) :
    op w = .ok b w' ∨ b = a ∧ ∃ e w₁, op w = .error (.raised e) w₁ := by
  change EStateM.tryCatch op handler w = _ at h
  unfold EStateM.tryCatch at h
  cases hop : op w with
  | ok c w₁ =>
    rw [hop] at h
    exact .inl h
  | error s w₁ =>
    rw [hop] at h
    cases s with
    | raised e =>
      simp only [hraised] at h
      exact .inr ⟨(pure_eq_ok.mp h).1.symm, e, w₁, rfl⟩
    | exhausted =>
      simp only [hexhausted] at h
      cases h

theorem raise_ne_ok {e : Ref} {a : α} : Run.raise e w ≠ .ok a w' := by
  intro h
  obtain ⟨s, w₁, -, h⟩ := bind_eq_ok.mp h
  cases hs : s.handled with
  | nil =>
    rw [hs] at h
    cases h
  | cons c cs =>
    simp only [hs] at h
    by_cases hc : c = e
    · rw [if_neg fun hne => hne hc] at h
      cases h
    · rw [if_pos hc] at h
      obtain ⟨_, w₂, -, h⟩ := bind_eq_ok.mp h
      obtain ⟨_, w₃, -, h⟩ := bind_eq_ok.mp h
      cases h

theorem fail_ne_ok {c : ExceptionClass} {message : Text} {a : α} :
    Run.fail c message w ≠ .ok a w' := by
  intro h
  obtain ⟨e, w₁, -, h⟩ := bind_eq_ok.mp h
  exact raise_ne_ok h

/-! ## Integers -/

/-- An integer or a truth value, as an integer. -/
def integerOf? : Value → Option Int
  | .int n _ => some n
  | .bool b => some (if b then 1 else 0)
  | _ => none

theorem integerOf?_eq_some {c : Value} (h : integerOf? c = some n) :
    (∃ i, c = .int n i) ∨ ∃ b, c = .bool b ∧ n = if b then 1 else 0 := by
  unfold integerOf? at h
  split at h
  · exact .inl ⟨_, by rw [Option.some.inj h]⟩
  · exact .inr ⟨_, rfl, (Option.some.inj h).symm⟩
  · cases h

/-- A value counts as an integer: it is one or a truth value, or else its method `__index__` gives one
of the two. -/
inductive CountsAs (v : Value) (w : World State) (n : Int) : Prop
  | content {c : Value} {w₁ : World State} : content v w = .ok c w₁ → integerOf? c = some n →
      CountsAs v w n
  | index {c c' : Value} {w₁ w₂ : World State} : Machine.content v w = .ok c w₁ →
      integerOf? c = none → callSpecial? standard v "__index__" [] w₁ = .ok (some c') w₂ →
      integerOf? c' = some n → CountsAs v w n

theorem countsAs_iff : CountsAs v w n ↔ ∃ w', index? standard v w = .ok (some n) w' := by
  constructor
  · intro h
    cases h with
    | @content c w₁ hc hn =>
      refine ⟨w₁, bind_eq_ok.mpr ⟨c, w₁, hc, ?_⟩⟩
      obtain ⟨i, rfl⟩ | ⟨b, rfl, rfl⟩ := integerOf?_eq_some hn <;> rfl
    | @index c c' w₁ w₂ hc hnone hcall hn =>
      refine ⟨w₂, bind_eq_ok.mpr ⟨c, w₁, hc, ?_⟩⟩
      split
      · cases hnone
      · cases hnone
      · refine bind_eq_ok.mpr ⟨some c', w₂, hcall, ?_⟩
        obtain ⟨i, rfl⟩ | ⟨b, rfl, rfl⟩ := integerOf?_eq_some hn <;> rfl
  · rintro ⟨w', h⟩
    obtain ⟨c, w₁, hc, h⟩ := bind_eq_ok.mp h
    split at h
    · obtain ⟨h, -⟩ := pure_eq_ok.mp h
      exact .content hc h
    · obtain ⟨h, -⟩ := pure_eq_ok.mp h
      exact .content hc h
    · next hint hbool =>
      have hnone : integerOf? c = none := by
        unfold integerOf?
        split
        · exact absurd rfl (hint _ _)
        · exact absurd rfl (hbool _)
        · rfl
      obtain ⟨c', w₂, hcall, h⟩ := bind_eq_ok.mp h
      split at h
      · obtain ⟨h, -⟩ := pure_eq_ok.mp h
        exact .index hc hnone hcall h
      · obtain ⟨h, -⟩ := pure_eq_ok.mp h
        exact .index hc hnone hcall h
      · obtain ⟨name, w₃, -, h⟩ := bind_eq_ok.mp h
        exact absurd h (fail_ne_ok)
      · obtain ⟨h, -⟩ := pure_eq_ok.mp h
        cases h

/-! ## Codes -/

/-- What the exception at `r` gives as a code. -/
inductive Gives (r : Ref) (w : World State) : ExitCode → Prop
  | unreadable {e : Ref} {w₁ : World State} :
      getAttribute standard (.ref r) "code" w = .error (.raised e) w₁ → Gives r w .unreadable
  | absent {w₁ : World State} : getAttribute standard (.ref r) "code" w = .ok .none w₁ →
      Gives r w .absent
  | integer {v : Value} {w₁ : World State} {n : Int} (shown : Text) : v ≠ .none →
      getAttribute standard (.ref r) "code" w = .ok v w₁ → CountsAs v w₁ n →
      Gives r w (.integer n shown)
  | other {v : Value} {w₁ : World State} (shown : Text) : v ≠ .none →
      getAttribute standard (.ref r) "code" w = .ok v w₁ → (∀ n, ¬ CountsAs v w₁ n) →
      Gives r w (.other shown)

/-- The interpreter reads codes as they are given. -/
theorem gives_of_exitCode {r : Ref} {code : ExitCode} (h : exitCode r w = .ok code w') :
    Gives r w code := by
  obtain ⟨read, w₁, hread, h⟩ := bind_eq_ok.mp h
  obtain hread | ⟨rfl, e, w₂, hread⟩ := ok_or_raised hread (fun _ => rfl) rfl
  · obtain ⟨v, w₂, hv, hread⟩ := bind_eq_ok.mp hread
    obtain ⟨hsome, rfl⟩ := pure_eq_ok.mp hread
    split at h
    · cases hsome
    · obtain rfl := Option.some.inj hsome
      obtain ⟨rfl, -⟩ := pure_eq_ok.mp h
      exact .absent hv
    · next hnone _ _ =>
      obtain rfl := Option.some.inj hsome
      obtain ⟨number, w₃, hnumber, h⟩ := bind_eq_ok.mp h
      have hnumber := ok_or_raised hnumber (fun _ => rfl) rfl
      cases number with
      | none =>
        obtain ⟨shown, w₄, -, h⟩ := bind_eq_ok.mp h
        obtain ⟨rfl, -⟩ := pure_eq_ok.mp h
        refine .other shown hnone hv fun n hn => ?_
        obtain ⟨w₅, hindex⟩ := countsAs_iff.mp hn
        obtain hnumber | ⟨-, e, w₆, hnumber⟩ := hnumber <;> rw [hindex] at hnumber <;> cases hnumber
      | some n =>
        obtain hindex | ⟨hnever, -⟩ := hnumber
        · have hn := countsAs_iff.mpr ⟨_, hindex⟩
          by_cases hs : isStatus n = true
          · simp only [hs, if_true] at h
            obtain ⟨shown, w₄, -, h⟩ := bind_eq_ok.mp h
            obtain ⟨rfl, -⟩ := pure_eq_ok.mp h
            exact .integer shown hnone hv hn
          · simp only [hs] at h
            obtain ⟨shown, w₄, -, h⟩ := bind_eq_ok.mp h
            obtain ⟨rfl, -⟩ := pure_eq_ok.mp h
            exact .integer shown hnone hv hn
        · cases hnever
  · obtain ⟨rfl, -⟩ := pure_eq_ok.mp h
    obtain hread | ⟨v, w₃, -, hread⟩ := bind_eq_error.mp hread
    · exact .unreadable hread
    · cases hread

/-! ## Programs that exit -/

theorem tryCatch_ok {op : Run α} :
    (tryCatch (do return .ok (← op)) fun s => return .error s : Run (Except Signal α)) w =
      match op w with
      | .ok a w₁ => .ok (.ok a) w₁
      | .error s w₁ => .ok (.error s) w₁ := by
  change EStateM.tryCatch (EStateM.bind op _) _ w = _
  unfold EStateM.tryCatch EStateM.bind
  cases op w <;> rfl

theorem exceptionObject_eq_ok {r : Ref} {e : Option ExceptionObject}
    (h : Run.exceptionObject r w = .ok e w') : w' = w := by
  obtain ⟨o, w₁, ho, h⟩ := bind_eq_ok.mp h
  obtain ⟨_, w₂, hget, ho⟩ := bind_eq_ok.mp ho
  cases hget
  obtain ⟨-, rfl⟩ := pure_eq_ok.mp ho
  split at h
  · exact (pure_eq_ok.mp h).2.symm
  · exact (pure_eq_ok.mp h).2.symm

/-- The exception at `r` asks to exit. -/
def AsksToExit (r : Ref) (w : World State) : Prop :=
  ∃ e, Run.exceptionObject r w = .ok (some e) w ∧ e.kind.isA .systemExit = true

theorem endingOf_eq_exited_iff {r : Ref} {code : ExitCode} :
    endingOf r w = .ok (.exited code) w' ↔ AsksToExit r w ∧ exitCode r w = .ok code w' := by
  constructor
  · intro h
    obtain ⟨e, w₁, he, h⟩ := bind_eq_ok.mp h
    obtain rfl := exceptionObject_eq_ok he
    cases e with
    | none => cases (pure_eq_ok.mp h).1
    | some e =>
      by_cases hexit : e.kind.isA .systemExit = true
      · simp only [hexit, if_true] at h
        obtain ⟨code', w₂, hcode, h⟩ := bind_eq_ok.mp h
        obtain ⟨hsame, rfl⟩ := pure_eq_ok.mp h
        cases hsame
        exact ⟨⟨e, he, hexit⟩, hcode⟩
      · simp only [hexit] at h
        obtain ⟨r, w₂, -, h⟩ := bind_eq_ok.mp h
        cases (pure_eq_ok.mp h).1
  · rintro ⟨⟨e, he, hexit⟩, hcode⟩
    refine bind_eq_ok.mpr ⟨some e, w, he, ?_⟩
    simp only [hexit, if_true]
    exact bind_eq_ok.mpr ⟨code, w', hcode, rfl⟩

theorem runToEnd_eq_exited_iff {t : Text} {globals : Ref} {code : ExitCode} :
    runToEnd t globals w = .ok (.exited code) w' ↔
      ∃ r w₁, runProgram t globals w = .error (.raised r) w₁ ∧ AsksToExit r w₁ ∧
        exitCode r w₁ = .ok code w' := by
  constructor
  · intro h
    obtain ⟨ended, w₁, hended, h⟩ := bind_eq_ok.mp h
    rw [tryCatch_ok] at hended
    cases hprogram : runProgram t globals w with
    | ok u w₂ =>
      rw [hprogram] at hended
      cases hended
      cases (pure_eq_ok.mp h).1
    | error s w₂ =>
      rw [hprogram] at hended
      cases hended
      cases s with
      | raised r => exact ⟨r, w₁, rfl, endingOf_eq_exited_iff.mp h⟩
      | exhausted => cases (pure_eq_ok.mp h).1
  · rintro ⟨r, w₁, hprogram, hexit⟩
    refine bind_eq_ok.mpr ⟨.error (.raised r), w₁, ?_, endingOf_eq_exited_iff.mpr hexit⟩
    rw [tryCatch_ok, hprogram]

/-- A program exits just when it raises an exception that asks for it and has a code. -/
theorem run_eq_exited_iff {s : Setup} {t : Text} {globals : Ref} {code : ExitCode} :
    (interpreter s).run t globals w = (.exited code, w') ↔
      ∃ r w₁, runProgram t globals w = .error (.raised r) w₁ ∧ AsksToExit r w₁ ∧
        exitCode r w₁ = .ok code w' := by
  rw [← runToEnd_eq_exited_iff]
  simp only [interpreter, EStateM.run]
  cases runToEnd t globals w with
  | ok ending w₁ => simp
  | error s w₁ => simp

end ThaiScript.Machine
