import ThaiScript.Proofs.Steps
import ThaiScript.Session

/-!
# What an attempt can end in

An attempt to run a source returns an execution, whatever the interpreter does, unless it is asked
for tracebacks and its reporter ends the process: `attempt_contained`. To tell which texts run, an
interpreter is made to note them, `Interpreter.recording`; it behaves like the interpreter it is
made of, and only a text that the parser has accepted is noted.
-/

namespace ThaiScript

variable {M V α β ε : Type}

theorem Translation.code_of (parse : Text → Verdict) (source : Text) :
    (Translation.of parse source).code = substitute source := by
  simp only [Translation.of]

/-- There is no objection just to a text that was accepted. -/
theorem Translation.error_of_eq_none_iff (parse : Text → Verdict) (source : Text) :
    (Translation.of parse source).error = none ↔ parse (substitute source) = .accepted := by
  cases h : parse (substitute source) <;> simp [Translation.of, TranslationError.ofVerdict?, h]

/-! ## Steps, by what they find -/

namespace Interpreter

section
variable {I : Interpreter M V} {o : SessionOptions} {sink : Sink} {w w' : World M} {b : V}
  {outcome : Outcome} {code : Text}

theorem tried_of_ok {op : Operation M V α} {a : α} (h : op w = .ok a w') :
    tried op w = .ok (.ok a) w' := by
  simp only [tried, h]

theorem tried_of_error {op : Operation M V α} {r : Raised V} (h : op w = .error r w') :
    tried op w = .ok (.error r) w' := by
  simp only [tried, h]

theorem collect_of_ok {text : Text} (h : I.readBuffer b w = .ok text w') :
    I.collect o (some b) outcome w = .ok (text, outcome) w' :=
  bind_of_ok (tried_of_ok h)

theorem collect_of_error {r : Raised V} (h : I.readBuffer b w = .error r w') :
    I.collect o (some b) outcome w = I.giveUp o r w' :=
  bind_of_ok (tried_of_error h)

theorem runCode_of_error {r : Raised V} (h : I.prepare sink w = .error r w') :
    I.runCode o sink code w = I.giveUp o r w' :=
  bind_of_ok (tried_of_error h)

theorem runCode_of_ok {buffer : Option V} {globals : Address}
    (h : I.prepare sink w = .ok (buffer, globals) w') :
    I.runCode o sink code w = (I.runIn o globals code >>= I.collect o buffer) w' :=
  bind_of_ok (tried_of_ok h)

end

end Interpreter

/-! ## Noting the texts that run -/

/-- A world in which the texts that have run are noted. -/
def World.noting (w : World M) (log : List Text) : World (M × List Text) :=
  ⟨(w.machine, log), w.console⟩

/-- A world without the notes. -/
def World.forget (w : World (M × List Text)) : World M := ⟨w.machine.1, w.console⟩

theorem World.complain_noting (w : World M) (log : List Text) (code : ExitCode) :
    (w.noting log).complain code = (w.complain code).noting log := by
  unfold complain
  cases code.complaint? <;> rfl

/-- The result of a step that ends with the notes `log`. -/
def noted (log : List Text) :
    EStateM.Result ε (World M) α → EStateM.Result ε (World (M × List Text)) α
  | .ok a w => .ok a (w.noting log)
  | .error e w => .error e (w.noting log)

/-- An operation that adds nothing to the notes. -/
def unnoted (op : EStateM ε (World M) α) : EStateM ε (World (M × List Text)) α :=
  fun w => noted w.machine.2 (op w.forget)

namespace Interpreter

/-- The interpreter with a note of each text that it runs. -/
def recording (I : Interpreter M V) : Interpreter (M × List Text) V where
  builtins := unnoted I.builtins
  dictionary module := unnoted (I.dictionary module)
  copy a := unnoted (I.copy a)
  set a name v := unnoted (I.set a name v)
  ask module name := unnoted (I.ask module name)
  ofText := I.ofText
  binder := unnoted I.binder
  bindTo binder print buffer := unnoted (I.bindTo binder print buffer)
  parse := I.parse
  newBuffer := unnoted I.newBuffer
  run code globals w :=
    let (ending, w') := I.run code globals w.forget
    (ending, w'.noting (w.machine.2 ++ [code]))
  printTraceback r := unnoted (I.printTraceback r)
  flush w := (I.flush w.forget).noting w.machine.2
  readBuffer b := unnoted (I.readBuffer b)

end Interpreter

/-- Notes that the first of two steps leaves are those of both when the second adds none. -/
theorem noted_bind {s : EStateM ε (World M) α} {s' : EStateM ε (World (M × List Text)) α}
    {f : α → EStateM ε (World M) β} {f' : α → EStateM ε (World (M × List Text)) β} {w : World M}
    {log log' : List Text} (hs : s' (w.noting log) = noted log' (s w))
    (hf : ∀ a w, f' a (w.noting log') = noted log' (f a w)) :
    (s' >>= f') (w.noting log) = noted log' ((s >>= f) w) := by
  simp only [bind, EStateM.bind, hs]
  cases s w with
  | ok a w => exact hf a w
  | error e w => rfl

theorem unnoted_bind (s : EStateM ε (World M) α) (f : α → EStateM ε (World M) β) :
    (unnoted s >>= fun a => unnoted (f a)) = unnoted (s >>= f) :=
  funext fun w => noted_bind (w := w.forget) rfl fun _ _ => rfl

namespace Interpreter

variable (I : Interpreter M V) (o : SessionOptions) (sink : Sink) (w : World M) (log : List Text)

theorem recording_failure (r : Raised V) :
    I.recording.failure o r (w.noting log) = noted log (I.failure o r w) := by
  unfold failure
  cases o.traceback with
  | false => rfl
  | true => exact noted_bind rfl fun _ _ => rfl

theorem recording_settle (ending : Ending V) :
    I.recording.settle o ending (w.noting log) = noted log (I.settle o ending w) := by
  cases ending with
  | completed => rfl
  | exited code => exact congrArg (EStateM.Result.ok _) (World.complain_noting w log code)
  | raised r => exact I.recording_failure o w log r

theorem recording_runIn (globals : Address) (code : Text) :
    I.recording.runIn o globals code (w.noting log) =
      noted (log ++ [code]) (I.runIn o globals code w) := by
  unfold runIn
  -- only the first step adds to the notes
  refine noted_bind rfl fun ending w => ?_
  exact noted_bind (I.recording_settle o w _ ending) fun _ _ => rfl

theorem recording_captured (module : V) (buffer : Option V) :
    I.recording.captured module buffer = unnoted (I.captured module buffer) := by
  cases buffer with
  | none => rfl
  | some b => simp only [NamespaceParts.captured, ← unnoted_bind]; rfl

theorem recording_bindAliases (module : V) (globals : Address) (print : Option V)
    (as : List Alias) :
    I.recording.bindAliases module globals print as =
      unnoted (I.bindAliases module globals print as) := by
  induction as with
  | nil => rfl
  | cons a as ih =>
    have hvalue : I.recording.aliasValue module print a = unnoted (I.aliasValue module print a) := by
      unfold NamespaceParts.aliasValue
      cases print with
      | none => rfl
      | some v =>
        dsimp only
        split <;> rfl
    simp only [NamespaceParts.bindAliases, ← unnoted_bind, hvalue, ih]
    rfl

theorem recording_prepare : I.recording.prepare sink = unnoted (I.prepare sink) := by
  have hbuffer : I.recording.buffer sink = unnoted (I.buffer sink) := by
    cases sink with
    | stdout => rfl
    | capture => simp only [buffer, ← unnoted_bind]; rfl
  have hprint (globals : Address) (print : Option V) :
      I.recording.setPrint globals print = unnoted (I.setPrint globals print) := by
    cases print <;> rfl
  have hbuild (buffer : Option V) : I.recording.build buffer = unnoted (I.build buffer) := by
    simp only [NamespaceParts.build, ← unnoted_bind, recording_captured, recording_bindAliases,
      hprint]
    rfl
  simp only [prepare, ← unnoted_bind, hbuffer, hbuild]
  rfl

theorem recording_giveUp (r : Raised V) :
    I.recording.giveUp o r (w.noting log) = noted log (I.giveUp o r w) :=
  noted_bind (I.recording_failure o w log r) fun _ _ => rfl

theorem tried_noting (op : Operation M V α) :
    tried (unnoted op) (w.noting log) = noted log (tried op w) := by
  have hop : unnoted op (w.noting log) = noted log (op w) := rfl
  unfold tried
  rw [hop]
  cases op w <;> rfl

theorem recording_collect (buffer : Option V) (outcome : Outcome) :
    I.recording.collect o buffer outcome (w.noting log) =
      noted log (I.collect o buffer outcome w) := by
  cases buffer with
  | none => rfl
  | some b =>
    refine noted_bind (tried_noting w log (I.readBuffer b)) fun read w => ?_
    cases read with
    | ok text => rfl
    | error r => exact I.recording_giveUp o w log r

/-- The text is run, once, when the buffer and the namespace are there. -/
theorem recording_runCode (code : Text) :
    I.recording.runCode o sink code (w.noting log) =
      noted (log ++ if isOk (I.prepare sink w) then [code] else []) (I.runCode o sink code w) := by
  have hprepare : I.recording.prepare sink (w.noting log) = noted log (I.prepare sink w) := by
    rw [recording_prepare]
    rfl
  cases h : I.prepare sink w with
  | error r w' =>
    rw [h] at hprepare
    rw [runCode_of_error h, runCode_of_error hprepare]
    simpa [isOk] using I.recording_giveUp o w' log r
  | ok p w' =>
    obtain ⟨buffer, globals⟩ := p
    rw [h] at hprepare
    rw [runCode_of_ok h, runCode_of_ok hprepare]
    exact noted_bind (I.recording_runIn o w' log globals code)
      fun outcome w => I.recording_collect o w _ buffer outcome

theorem recording_report (output : Text) (outcome : Outcome) :
    report sink output outcome (w.noting log) = noted log (report sink output outcome w) := by
  unfold report
  cases outcome.reportLine <;> cases sink <;> rfl

theorem recording_runTranslation (t : Translation) :
    I.recording.runTranslation o sink t (w.noting log) =
      noted (log ++ if t.error = none ∧ isOk (I.prepare sink w) = true then [t.code] else [])
        (I.runTranslation o sink t w) := by
  unfold runTranslation
  cases t.error with
  | some e => simp [noted, pure, EStateM.pure]
  | none => simpa using I.recording_runCode o sink w log t.code

/-- What is noted of an attempt is its text, if that was accepted and everything was prepared. -/
theorem recording_attempt (source : Text) :
    I.recording.attempt o sink source (w.noting log) =
      noted (log ++ if I.parse (substitute source) = .accepted ∧
          isOk (I.prepare sink w) = true then [substitute source] else [])
        (I.attempt o sink source w) := by
  have hrun := I.recording_runTranslation o sink w log (Translation.of I.parse source)
  simp only [Translation.error_of_eq_none_iff, Translation.code_of] at hrun
  unfold attempt
  refine noted_bind hrun fun r w => ?_
  exact noted_bind (recording_report sink w _ r.1 r.2) fun _ _ => rfl

end Interpreter

/-! ## Steps that return -/

/-- The outcome that the ending of a run stands for. -/
def Ending.outcome (l : Language) : Ending V → Outcome
  | completed => .completed
  | exited code => .exited code.status
  | raised r => .runtimeFailed (r.failure l)

/-- The line of a report, if there is one. -/
def Outcome.reportText (outcome : Outcome) : Text :=
  match outcome.reportLine with
  | none => []
  | some line => line ++ "\n"

namespace Interpreter

section
variable (I : Interpreter M V) (o : SessionOptions)

/-- A step returns an answer with `P`, unless a traceback is asked for and the reporter ends the
process. -/
def Returns (x : EStateM.Result Int (World M) α) (P : α → Prop) : Prop :=
  match x with
  | .ok a _ => P a
  | .error status w => o.traceback = true ∧ ∃ r w₀, I.printTraceback r w₀ = .error status w

variable {I o}

theorem Returns.bind {s : Session M α} {f : α → Session M β} {w : World M} {P : α → Prop}
    {Q : β → Prop} (hs : I.Returns o (s w) P)
    (hf : ∀ a w', s w = .ok a w' → P a → I.Returns o (f a w') Q) :
    I.Returns o ((s >>= f) w) Q := by
  cases h : s w with
  | ok a w' =>
    rw [h] at hs
    rw [bind_of_ok h]
    exact hf a w' h hs
  | error status w' =>
    rw [h] at hs
    rw [bind_of_error h]
    exact hs

theorem Returns.imp {x : EStateM.Result Int (World M) α} {P Q : α → Prop} (h : I.Returns o x P)
    (hPQ : ∀ a, P a → Q a) : I.Returns o x Q := by
  cases x with
  | ok a w => exact hPQ a h
  | error status w => exact h

variable (I o) (w : World M)

theorem returns_failure (r : Raised V) :
    I.Returns o (I.failure o r w) (· = .runtimeFailed (r.failure o.language)) := by
  unfold failure
  cases ht : o.traceback with
  | false => exact rfl
  | true =>
    refine Returns.bind (P := fun _ => True) ?_ fun _ _ _ _ => rfl
    cases h : I.printTraceback r w with
    | ok u w' => trivial
    | error status w' => exact ⟨ht, r, w, h⟩

theorem returns_settle (ending : Ending V) :
    I.Returns o (I.settle o ending w) (· = ending.outcome o.language) := by
  cases ending with
  | completed => exact rfl
  | exited code => exact rfl
  | raised r => exact I.returns_failure o w r

theorem returns_runIn (globals : Address) (code : Text) :
    I.Returns o (I.runIn o globals code w)
      (· = (I.run code globals w).1.outcome o.language) := by
  unfold runIn
  refine Returns.bind (P := (· = (I.run code globals w).1)) rfl fun ending w' _ hending => ?_
  subst hending
  exact Returns.bind (I.returns_settle o w' _) fun outcome _ _ h => h

theorem returns_giveUp (r : Raised V) :
    I.Returns o (I.giveUp o r w) (· = ([], .runtimeFailed (r.failure o.language))) := by
  refine Returns.bind (I.returns_failure o w r) fun outcome _ _ h => ?_
  rw [h]
  exact rfl

end

/-! ## Containment -/

section
variable (I : Interpreter M V) (o : SessionOptions) (sink : Sink)

theorem isSome_buffer_iff {w w' : World M} {b : Option V} (h : I.buffer sink w = .ok b w') :
    b.isSome = true ↔ sink = .capture := by
  cases sink with
  | stdout =>
    cases h
    simp
  | capture =>
    obtain ⟨v, w₁, -, h⟩ := bind_eq_ok.mp h
    cases h
    simp

theorem isSome_buffer_of_prepare_iff {w w' : World M} {b : Option V} {globals : Address}
    (h : I.prepare sink w = .ok (b, globals) w') : b.isSome = true ↔ sink = .capture := by
  obtain ⟨b', w₁, hb, h⟩ := bind_eq_ok.mp h
  obtain ⟨globals', w₂, -, h⟩ := bind_eq_ok.mp h
  cases h
  exact I.isSome_buffer_iff sink hb

/-- How the run of an accepted text ends: the captured text and the outcome. -/
inductive Ends (code : Text) (w : World M) : Text → Outcome → Prop
  | unprepared {r : Raised V} {w' : World M} : I.prepare sink w = .error r w' →
      Ends code w [] (.runtimeFailed (r.failure o.language))
  | uncaptured {globals : Address} {w' : World M} : sink = .stdout →
      I.prepare sink w = .ok (none, globals) w' →
      Ends code w [] ((I.run code globals w').1.outcome o.language)
  | captured {b : V} {globals : Address} {outcome : Outcome} {w₁ w₂ w₃ : World M} {text : Text} :
      sink = .capture →
      I.prepare sink w = .ok (some b, globals) w₁ →
      I.runIn o globals code w₁ = .ok outcome w₂ →
      I.readBuffer b w₂ = .ok text w₃ →
      Ends code w text ((I.run code globals w₁).1.outcome o.language)
  | unread {b : V} {globals : Address} {outcome : Outcome} {w₁ w₂ w₃ : World M} {r : Raised V} :
      sink = .capture →
      I.prepare sink w = .ok (some b, globals) w₁ →
      I.runIn o globals code w₁ = .ok outcome w₂ →
      I.readBuffer b w₂ = .error r w₃ →
      Ends code w [] (.runtimeFailed (r.failure o.language))

/-- What an attempt promises of the execution that it returns. -/
structure Contained (source : Text) (w : World M) (e : Execution) : Prop where
  code_eq : e.translation.code = substitute source
  error_eq_none_iff : e.translation.error = none ↔ I.parse (substitute source) = .accepted
  translationFailed_iff : ∀ x, e.outcome = .translationFailed x ↔ e.translation.error = some x
  /-- An accepted text is run, and otherwise nothing is captured; the report follows. -/
  ends : ∃ captured,
    (e.translation.error = none →
      I.Ends o sink e.translation.code w captured e.outcome) ∧
    (e.translation.error ≠ none → captured = []) ∧
    e.output = match sink with
      | .stdout => []
      | .capture => captured ++ e.outcome.reportText

variable {I o sink} {code : Text} {w : World M}

theorem Ends.ne_translationFailed {text : Text} {outcome : Outcome}
    (h : I.Ends o sink code w text outcome) (x : TranslationError) :
    outcome ≠ .translationFailed x := by
  have hending : ∀ ending : Ending V, ending.outcome o.language ≠ .translationFailed x := by
    intro ending
    cases ending <;> exact Outcome.noConfusion
  cases h with
  | unprepared _ => exact Outcome.noConfusion
  | uncaptured _ _ => exact hending _
  | captured _ _ _ _ => exact hending _
  | unread _ _ _ _ => exact Outcome.noConfusion

theorem Ends.eq_nil {text : Text} {outcome : Outcome}
    (h : I.Ends o .stdout code w text outcome) : text = [] := by
  cases h with
  | unprepared _ => rfl
  | uncaptured _ _ => rfl
  | captured hs => cases hs
  | unread hs => cases hs

variable (I o sink code w)

theorem returns_runCode :
    I.Returns o (I.runCode o sink code w) fun (text, outcome) =>
      I.Ends o sink code w text outcome := by
  cases h : I.prepare sink w with
  | error r w₁ =>
    rw [runCode_of_error h]
    exact (I.returns_giveUp o w₁ r).imp fun x hx => hx ▸ .unprepared h
  | ok p w₁ =>
    obtain ⟨b, globals⟩ := p
    have hsink := I.isSome_buffer_of_prepare_iff sink h
    rw [runCode_of_ok h]
    refine Returns.bind (I.returns_runIn o w₁ globals code) fun outcome w₂ hrun houtcome => ?_
    cases b with
    | none =>
      rw [houtcome]
      exact .uncaptured (by cases sink; rfl; simp at hsink) h
    | some b =>
      have hcapture : sink = .capture := hsink.mp rfl
      cases hread : I.readBuffer b w₂ with
      | ok text w₃ =>
        rw [collect_of_ok hread, houtcome]
        exact .captured hcapture h hrun hread
      | error r w₃ =>
        rw [collect_of_error hread]
        exact (I.returns_giveUp o w₃ r).imp fun x hx => hx ▸ .unread hcapture h hrun hread

theorem returns_report (output : Text) (outcome : Outcome) :
    I.Returns o (report sink output outcome w)
      (· = match sink with | .stdout => output | .capture => output ++ outcome.reportText) := by
  unfold report Outcome.reportText
  cases outcome.reportLine with
  | none => cases sink <;> simp [Returns, pure, EStateM.pure]
  | some line =>
    cases sink with
    | stdout => exact rfl
    | capture => exact List.append_assoc output line "\n".toList

theorem returns_runTranslation (t : Translation) :
    I.Returns o (I.runTranslation o sink t w) fun (text, outcome) =>
      (t.error = none → I.Ends o sink t.code w text outcome) ∧
      (t.error ≠ none → text = []) ∧
      ∀ x, outcome = .translationFailed x ↔ t.error = some x := by
  unfold runTranslation
  cases t.error with
  | some e => exact ⟨by simp, fun _ => rfl, by simp⟩
  | none =>
    refine (I.returns_runCode o sink t.code w).imp fun r hr => ?_
    exact ⟨fun _ => hr, by simp, by simpa using hr.ne_translationFailed⟩

theorem returns_attempt (source : Text) :
    I.Returns o (I.attempt o sink source w) (I.Contained o sink source w) := by
  have hcode := Translation.code_of I.parse source
  have herror := Translation.error_of_eq_none_iff I.parse source
  unfold attempt
  generalize Translation.of I.parse source = t at hcode herror ⊢
  refine Returns.bind (I.returns_runTranslation o sink w t) fun (text, outcome) w' _ hrun => ?_
  obtain ⟨hends, hnil, hfailed⟩ := hrun
  refine Returns.bind (I.returns_report o sink w' text outcome) fun output _ _ houtput => ?_
  refine ⟨hcode, herror, hfailed, text, hends, hnil, ?_⟩
  cases sink with
  | capture => exact houtput
  | stdout =>
    -- without a buffer nothing is captured, so the output that is passed on is empty
    refine houtput.trans ?_
    by_cases ht : t.error = none
    · exact (hends ht).eq_nil
    · exact hnil ht

end

/-- Only an accepted text runs, once, and whatever happens an attempt returns an execution that says
how it ended, unless a traceback is asked for and the reporter ends the process. -/
theorem attempt_contained (I : Interpreter M V) (o : SessionOptions) (sink : Sink) (source : Text)
    (w : World M) (log : List Text) :
    I.recording.attempt o sink source (w.noting log) =
      noted (log ++ if I.parse (substitute source) = .accepted ∧
          isOk (I.prepare sink w) = true then [substitute source] else [])
        (I.attempt o sink source w) ∧
    ((∃ e w', I.attempt o sink source w = .ok e w' ∧ I.Contained o sink source w e) ∨
      o.traceback = true ∧ ∃ r w₀ status w',
        I.printTraceback r w₀ = .error status w' ∧
        I.attempt o sink source w = .error status w') := by
  refine ⟨I.recording_attempt o sink w log source, ?_⟩
  have hreturns := I.returns_attempt o sink w source
  cases h : I.attempt o sink source w with
  | ok e w' =>
    rw [h] at hreturns
    exact .inl ⟨e, w', rfl, hreturns⟩
  | error status w' =>
    rw [h] at hreturns
    obtain ⟨ht, r, w₀, hr⟩ := hreturns
    exact .inr ⟨ht, r, w₀, status, w', hr, rfl⟩

/-- An interpreter that accepts every text, whose runs fail and whose reporter ends the process. -/
def quitting : Interpreter Unit Unit where
  builtins := pure ()
  dictionary _ := pure 0
  copy a := pure a
  set _ _ _ := pure ()
  ask _ _ := pure ()
  ofText _ := ()
  binder := pure ()
  bindTo _ _ _ := pure ()
  parse _ := .accepted
  newBuffer := pure ()
  run _ _ w := (.raised ⟨"ZeroDivisionError", "division by zero", ()⟩, w)
  printTraceback _ := throw 3
  flush w := w
  readBuffer _ := pure []

/-- Without tracebacks the reporter is not asked, and the failure of the run is told. -/
theorem exists_attempt_quitting :
    ∃ e w', quitting.attempt ⟨.thai, false⟩ .capture "1 / 0".toList ⟨(), .empty⟩ = .ok e w' ∧
      quitting.Contained ⟨.thai, false⟩ .capture "1 / 0".toList ⟨(), .empty⟩ e :=
  (attempt_contained quitting ⟨.thai, false⟩ .capture "1 / 0".toList ⟨(), .empty⟩ []).2.resolve_right
    fun h => Bool.noConfusion h.1

/-- Asked for a traceback, an attempt need not return. -/
theorem not_exists_attempt_quitting :
    ¬ ∃ e w', quitting.attempt ⟨.thai, true⟩ .stdout "1 / 0".toList ⟨(), .empty⟩ = .ok e w' := by
  have h : quitting.attempt ⟨.thai, true⟩ .stdout "1 / 0".toList ⟨(), .empty⟩ =
      .error 3 ⟨(), .empty⟩ := rfl
  rw [h]
  rintro ⟨e, w', he⟩
  cases he

end Interpreter

end ThaiScript
