import ThaiScript.Proofs.Memory

/-!
# The order of what is written

A script and the session write to the same two streams, the script through the buffers in front of
them. Passing on what waits moves no text past another, so what stands on a stream is all that was
written to it, in order, as long as the session writes behind what was passed on. Its report does;
what it tells about an exit code overtakes an unfinished line of the error stream:
`attempt_stdout_streams`.
-/

namespace ThaiScript

variable {M V : Type}

/-! ## Channels -/

namespace Channel

variable (c : Channel) (t : Text) (n : Nat)

/-- All that was written to a channel. -/
def written : Text := c.delivered ++ c.waiting

/-- Passes on so many characters of what waits. -/
def pass : Channel := ⟨c.delivered ++ c.waiting.take n, [c.waiting.drop n]⟩

theorem written_flush : c.flush.written = c.written := by
  simp [written]

theorem written_write : (c.write t).written = c.written ++ t := by
  simp only [written, waiting_write, ← List.append_assoc]
  rfl

theorem written_writeLines : (c.writeLines t).written = c.written ++ t := by
  unfold writeLines
  split
  · rw [written_flush, written_write]
  · exact c.written_write t

theorem waiting_pass : (c.pass n).waiting = c.waiting.drop n := by
  simp [pass, waiting]

theorem written_pass : (c.pass n).written = c.written := by
  unfold written
  rw [waiting_pass]
  simp [pass]

/-- No line ends in what waits. -/
def Unfinished (c : Channel) : Prop := '\n' ∉ c.waiting

variable {c}

theorem Unfinished.pass (h : c.Unfinished) : (c.pass n).Unfinished :=
  fun hc => h (List.mem_of_mem_drop (c.waiting_pass n ▸ hc))

theorem Unfinished.writeLines (h : c.Unfinished) : (c.writeLines t).Unfinished := by
  unfold Channel.writeLines
  split
  · exact List.not_mem_nil
  · next hany =>
    intro hc
    rw [waiting_write, List.mem_append] at hc
    refine hc.elim h fun ht => hany ?_
    exact List.any_eq_true.mpr ⟨'\n', ht, by decide⟩

end Channel

/-! ## What a script does to the console -/

inductive Event
  | out (t : Text)
  | err (t : Text)
  /-- So many characters of what waits for the output stream are passed on. -/
  | passOut (n : Nat)
  | passErr (n : Nat)
deriving DecidableEq, Repr

namespace Event

/-- What an event writes to the output stream. -/
def outText : Event → Text
  | out t => t
  | _ => []

/-- What an event writes to the error stream. -/
def errText : Event → Text
  | err t => t
  | _ => []

end Event

namespace Console

def perform (c : Console) : Event → Console
  | .out t => { c with out := c.out.write t }
  | .err t => { c with err := c.err.writeLines t }
  | .passOut n => { c with out := c.out.pass n }
  | .passErr n => { c with err := c.err.pass n }

/-- Passes on all that waits. -/
def flush (c : Console) : Console := ⟨c.out.flush, c.err.flush⟩

theorem written_out_perform (c : Console) (e : Event) :
    (c.perform e).out.written = c.out.written ++ e.outText := by
  cases e with
  | out t => exact c.out.written_write t
  | passOut n => simp [perform, Event.outText, Channel.written_pass]
  | err t => simp [perform, Event.outText]
  | passErr n => simp [perform, Event.outText]

theorem written_err_perform (c : Console) (e : Event) :
    (c.perform e).err.written = c.err.written ++ e.errText := by
  cases e with
  | err t => exact c.err.written_writeLines t
  | passErr n => simp [perform, Event.errText, Channel.written_pass]
  | out t => simp [perform, Event.errText]
  | passOut n => simp [perform, Event.errText]

theorem unfinished_err_perform {c : Console} (h : c.err.Unfinished) (e : Event) :
    (c.perform e).err.Unfinished := by
  cases e with
  | err t => exact h.writeLines t
  | passErr n => exact h.pass n
  | out t => exact h
  | passOut n => exact h

theorem written_out_foldl (es : List Event) (c : Console) :
    (es.foldl perform c).out.written = c.out.written ++ es.flatMap Event.outText := by
  induction es generalizing c with
  | nil => simp
  | cons e es ih =>
    rw [List.foldl_cons, ih, written_out_perform, List.flatMap_cons, List.append_assoc]

theorem written_err_foldl (es : List Event) (c : Console) :
    (es.foldl perform c).err.written = c.err.written ++ es.flatMap Event.errText := by
  induction es generalizing c with
  | nil => simp
  | cons e es ih =>
    rw [List.foldl_cons, ih, written_err_perform, List.flatMap_cons, List.append_assoc]

theorem unfinished_err_foldl (es : List Event) {c : Console} (h : c.err.Unfinished) :
    (es.foldl perform c).err.Unfinished := by
  induction es generalizing c with
  | nil => exact h
  | cons e es ih => exact ih (unfinished_err_perform h e)

end Console

/-! ## The session's own writing -/

/-- What is told about an ending is a line, if it is anything. -/
theorem Ending.complaint_eq_nil_or_line (ending : Ending V) :
    ending.complaint = [] ∨ ∃ t, ending.complaint = t ++ ['\n'] := by
  cases ending with
  | completed => exact .inl rfl
  | raised r => exact .inl rfl
  | exited code =>
    cases h : code.complaint? with
    | none => exact .inl (by simp [Ending.complaint, h])
    | some shown => exact .inr ⟨shown, by simp [Ending.complaint, h]⟩

/-- A line and an unfinished one can be told apart in either order. -/
theorem append_line_eq_iff {t u : Text} (ht : '\n' ∉ t) (hu : u = [] ∨ ∃ v, u = v ++ ['\n']) :
    u ++ t = t ++ u ↔ u = [] ∨ t = [] := by
  refine ⟨fun h => ?_, fun h => by rcases h with rfl | rfl <;> simp⟩
  obtain rfl | ⟨v, rfl⟩ := hu
  · exact .inl rfl
  -- the last character of one side is a line feed, that of the other lies in `t`
  · refine .inr (Classical.byContradiction fun hne => ht ?_)
    have hlast := congrArg List.getLast? h
    rw [← List.append_assoc, List.getLast?_concat, List.getLast?_append,
      List.getLast?_eq_some_getLast hne] at hlast
    exact Option.some.inj hlast ▸ List.getLast_mem hne

namespace Interpreter

/-- What the session reports stands behind all that was written to the output stream by the script,
and before it by a build. What it tells about an exit code stands behind all that was written to the
error stream just if there is nothing to tell or no line was left unfinished there, and else before
the unfinished line. -/
theorem attempt_stdout_streams (I : Interpreter M V) {o : SessionOptions} {w w₀ w₁ : World M}
    {source : Text} {globals : Address} {ending : Ending V} {es : List Event}
    (ht : o.traceback = false)
    (haccept : I.parse (substitute source) = .accepted)
    (hprepare : I.prepare .stdout w = .ok (none, globals) w₀)
    (hrun : I.run (substitute source) globals w₀ = (ending, w₁))
    (hevents : w₁.console = es.foldl Console.perform w.console)
    (hflush : ∀ c, (I.flush ⟨w₁.machine, c⟩).console = c.flush)
    (hunfinished : w.console.err.Unfinished) :
    ∃ e w', I.attempt o .stdout source w = .ok e w' ∧
      e.outcome = ending.outcome o.language ∧
      w'.console.out =
        ⟨w.console.out.written ++ es.flatMap Event.outText ++ e.outcome.reportText, []⟩ ∧
      w'.console.err =
        ⟨w₁.console.err.delivered ++ ending.complaint ++ w₁.console.err.waiting, []⟩ ∧
      (w'.console.err.delivered =
          w.console.err.written ++ es.flatMap Event.errText ++ ending.complaint ↔
        ending.complaint = [] ∨ w₁.console.err.waiting = []) := by
  have hafter : (I.worldAfter (substitute source) globals w₀).console =
      (w₁.deliverErr ending.complaint).console.flush := by
    unfold worldAfter
    rw [hrun]
    exact hflush _
  have hout : w₁.console.out.written = w.console.out.written ++ es.flatMap Event.outText := by
    rw [hevents, Console.written_out_foldl]
  have herr : w₁.console.err.delivered ++ w₁.console.err.waiting =
      w.console.err.written ++ es.flatMap Event.errText := by
    rw [← Console.written_err_foldl, ← hevents]
    rfl
  have hline : '\n' ∉ w₁.console.err.waiting :=
    hevents ▸ Console.unfinished_err_foldl es hunfinished
  refine ⟨_, _, I.attempt_stdout haccept ht hprepare, ?_, ?_, ?_, ?_⟩
  · rw [hrun]
  · rw [← hout]
    simp only [World.deliverOut, hafter]
    rfl
  · simp only [World.deliverOut, hafter]
    rfl
  · simp only [World.deliverOut, hafter]
    have hdelivered : (w₁.deliverErr ending.complaint).console.flush.err.delivered =
        w₁.console.err.delivered ++ (ending.complaint ++ w₁.console.err.waiting) :=
      List.append_assoc ..
    rw [← herr, ← append_line_eq_iff hline ending.complaint_eq_nil_or_line, hdelivered,
      List.append_assoc, List.append_right_inj]

/-- A script that leaves an unfinished line on both streams, and fails. -/
def writesAndFails : Script Text :=
  .write true "a" (.write false "b"
    (.finish (.raised ⟨"ZeroDivisionError", "division by zero", []⟩)))

/-- The report follows the unfinished line. -/
theorem attempt_stdout_streams_raised :
    ∃ e w', (Scripted.named fun _ => writesAndFails).interpreter.attempt ⟨.english, false⟩ .stdout
        [] Scripted.namedStart = .ok e w' ∧
      w'.console.out.delivered = "bRuntime error: division by zero\n".toList ∧
      w'.console.err.delivered = "a".toList := by
  obtain ⟨e, w', hattempt, houtcome, hout, herr, -⟩ :=
    @attempt_stdout_streams _ _ (Scripted.named fun _ => writesAndFails).interpreter
      ⟨.english, false⟩ Scripted.namedStart _ _ [] _ _ [.err "a", .out "b"] rfl rfl rfl rfl rfl
      (fun _ => rfl) List.not_mem_nil
  refine ⟨e, w', hattempt, ?_, ?_⟩
  · rw [hout, houtcome]
    rfl
  · rw [herr]
    rfl

/-- A script writes `a` to the error stream and exits with `b`; what stands there is `b` and a line
feed, then `a`. -/
theorem attempt_stdout_overtakes :
    ∃ e w', (Scripted.named fun _ => .write true "a" (.finish (.exited (.other "b")))
        ).interpreter.attempt ⟨.thai, false⟩ .stdout [] Scripted.namedStart = .ok e w' ∧
      w'.console.err.delivered = "b\na".toList ∧
      w'.console.err.delivered ≠ "a".toList ++ "b\n".toList :=
  ⟨_, _, rfl, rfl, by decide⟩

end Interpreter

end ThaiScript
