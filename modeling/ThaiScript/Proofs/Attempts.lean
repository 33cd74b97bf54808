import ThaiScript.Proofs.Containment

/-!
# Attempts without tracebacks

Where no traceback is asked for, the reporter of the interpreter has no part in an attempt. The
answer of the attempt and the world that it leaves are then known from what the run leaves: first a
code that is no status is told, then what waits is passed on, then the buffer is read, and the
report comes last.
-/

namespace ThaiScript

variable {M V : Type}

/-- What is told on the error stream about the ending of a run. -/
def Ending.complaint : Ending V → Text
  | .exited code => (code.complaint?.map (· ++ "\n".toList)).getD []
  | _ => []

theorem World.deliverErr_nil (w : World M) : w.deliverErr [] = w := by
  simp [deliverErr, Channel.deliver]

theorem World.deliverOut_nil (w : World M) : w.deliverOut [] = w := by
  simp [deliverOut, Channel.deliver]

theorem World.complain_eq (w : World M) (code : ExitCode) :
    w.complain code = w.deliverErr (Ending.exited (V := V) code).complaint := by
  unfold complain
  cases h : code.complaint? with
  | none => simp [Ending.complaint, h, deliverErr_nil]
  | some shown => simp [Ending.complaint, h]

theorem World.machine_complain (w : World M) (code : ExitCode) :
    (w.complain code).machine = w.machine := by
  unfold complain
  cases code.complaint? <;> rfl

namespace Interpreter

variable (I : Interpreter M V) {o : SessionOptions} {w : World M} {source : Text}

/-- The world behind a run: a code that is no status is told, then what waits is passed on. -/
def worldAfter (code : Text) (globals : Address) (w : World M) : World M :=
  I.flush ((I.run code globals w).2.deliverErr (I.run code globals w).1.complaint)

theorem failure_eq (ht : o.traceback = false) (r : Raised V) :
    I.failure o r w = .ok (.runtimeFailed (r.failure o.language)) w := by
  simp [failure, ht, pure, EStateM.pure]

theorem settle_eq (ht : o.traceback = false) (ending : Ending V) :
    I.settle o ending w = .ok (ending.outcome o.language) (w.deliverErr ending.complaint) := by
  cases ending with
  | completed => exact congrArg _ w.deliverErr_nil.symm
  | exited code => exact congrArg _ (w.complain_eq code)
  | raised r => exact (I.failure_eq ht r).trans (congrArg _ w.deliverErr_nil.symm)

theorem runIn_eq (ht : o.traceback = false) (globals : Address) (code : Text) :
    I.runIn o globals code w =
      .ok ((I.run code globals w).1.outcome o.language) (I.worldAfter code globals w) := by
  simp only [runIn, bind, EStateM.bind, I.settle_eq ht]
  rfl

theorem report_stdout (output : Text) (outcome : Outcome) :
    report .stdout output outcome w = .ok output (w.deliverOut outcome.reportText) := by
  unfold report Outcome.reportText
  cases outcome.reportLine with
  | none => exact congrArg _ w.deliverOut_nil.symm
  | some line => rfl

theorem report_capture (output : Text) (outcome : Outcome) :
    report .capture output outcome w = .ok (output ++ outcome.reportText) w := by
  unfold report Outcome.reportText
  cases outcome.reportLine with
  | none => exact congrArg (EStateM.Result.ok · w) output.append_nil.symm
  | some line => exact congrArg (EStateM.Result.ok · w) (output.append_assoc line "\n".toList)

/-- The translation of a text that is accepted. -/
theorem translation_of_accepted (haccept : I.parse (substitute source) = .accepted) :
    Translation.of I.parse source = ⟨substitute source, none⟩ := by
  simp [Translation.of, haccept, TranslationError.ofVerdict?]

section
variable {sink : Sink} {globals : Address} {w₁ : World M}
  (haccept : I.parse (substitute source) = .accepted)
include haccept

/-- An accepted text is run and its outcome is reported. -/
theorem attempt_of_accepted {text output : Text} {outcome : Outcome} {w' w'' : World M}
    (hrun : I.runCode o sink (substitute source) w = .ok (text, outcome) w')
    (hreport : report sink text outcome w' = .ok output w'') :
    I.attempt o sink source w = .ok ⟨⟨substitute source, none⟩, output, outcome⟩ w'' := by
  unfold attempt
  rw [I.translation_of_accepted haccept]
  simp only [runTranslation, bind, EStateM.bind, hrun, hreport, pure, EStateM.pure]

theorem attempt_stdout (ht : o.traceback = false)
    (hprepare : I.prepare .stdout w = .ok (none, globals) w₁) :
    let outcome := (I.run (substitute source) globals w₁).1.outcome o.language
    I.attempt o .stdout source w =
      .ok ⟨⟨substitute source, none⟩, [], outcome⟩
        ((I.worldAfter (substitute source) globals w₁).deliverOut outcome.reportText) := by
  refine I.attempt_of_accepted haccept ?_ (report_stdout [] _)
  rw [runCode_of_ok hprepare]
  exact bind_of_ok (I.runIn_eq ht globals _)

theorem attempt_capture (ht : o.traceback = false) {b : V} {text : Text} {w₂ : World M}
    (hprepare : I.prepare .capture w = .ok (some b, globals) w₁)
    (hread : I.readBuffer b (I.worldAfter (substitute source) globals w₁) = .ok text w₂) :
    let outcome := (I.run (substitute source) globals w₁).1.outcome o.language
    I.attempt o .capture source w =
      .ok ⟨⟨substitute source, none⟩, text ++ outcome.reportText, outcome⟩ w₂ := by
  refine I.attempt_of_accepted haccept ?_ (report_capture text _)
  rw [runCode_of_ok hprepare, bind_of_ok (I.runIn_eq ht globals _)]
  exact collect_of_ok hread

end

end Interpreter

end ThaiScript
