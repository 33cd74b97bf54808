import ThaiScript.CommandLine.Run
import ThaiScript.Proofs.Attempts
import ThaiScript.Proofs.ExitCode

/-!
# The stages of a call

A call that names a script goes through its environment, its log filter and its script, in this order.
The first of the three that fails ends the call with one line and the status 1; behind them the
translation is written, or it is run: `run_staged`. A script that runs decides on the status by the way
it ends (`Ending.shownStatus`), unless a traceback of its failure is asked for and the reporter ends the
process itself (`Quits`).
-/

namespace ThaiScript

variable {M V : Type}

/-! ## Ends of executions -/

/-- The status that a process shows for the ending of its script. -/
def Ending.shownStatus : Ending V → Nat
  | completed => 0
  | raised _ => 0
  | exited .absent => 0
  | exited (.integer n _) => if -2 ^ 31 ≤ n ∧ n < 2 ^ 31 then (n % 256).toNat else 1
  | exited (.other _) => 1
  | exited .unreadable => 1

theorem Ending.processStatus_outcome (l : Language) (ending : Ending V) :
    CommandLine.processStatus (ending.outcome l).exitStatus = ending.shownStatus := by
  cases ending with
  | completed => rfl
  | raised r => rfl
  | exited code =>
    cases code with
    | absent => rfl
    | other shown => rfl
    | unreadable => rfl
    | integer n shown =>
      have hstatus : isStatus n = true ↔ -2 ^ 31 ≤ n ∧ n < 2 ^ 31 := by
        simp only [isStatus, decide_eq_true_eq]
        omega
      change CommandLine.processStatus (if isStatus n = true then n else 1) =
        if -2 ^ 31 ≤ n ∧ n < 2 ^ 31 then (n % 256).toNat else 1
      by_cases h : isStatus n = true
      · rw [if_pos h, if_pos (hstatus.mp h)]
        rfl
      · rw [if_neg h, if_neg (mt hstatus.mpr h)]
        rfl

/-- The outcome that a step leaves the process with. A step that ends the process is an exit. -/
def leaves {α : Type} (outcome : α → Outcome) : EStateM.Result Int (World M) α → Outcome
  | .ok a _ => outcome a
  | .error status _ => .exited status

theorem leaves_bind {α β : Type} {f : α → Outcome} {g : β → Outcome} {s : Session M α}
    {next : α → Session M β} {w : World M} (hnext : ∀ a w', leaves g (next a w') = f a) :
    leaves g ((s >>= next) w) = leaves f (s w) := by
  cases hs : s w with
  | ok a w' =>
    rw [bind_of_ok hs]
    exact hnext a w'
  | error status w' =>
    rw [bind_of_error hs]
    rfl

namespace Interpreter

variable (I : Interpreter M V) (o : SessionOptions) (sink : Sink) (w : World M)

/-- How a text ends that is run in a world, and the world behind it. A run that cannot be prepared ends
in that failure. -/
def finish (code : Text) (w : World M) : Ending V × World M :=
  match I.prepare sink w with
  | .error r w' => (.raised r, w')
  | .ok (_, globals) w' => I.run code globals w'

/-- A traceback of an ending is asked for, and the reporter ends the process with a status. -/
def Quits (ending : Ending V) (w : World M) (status : Int) : Prop :=
  o.traceback = true ∧ ∃ r w', ending = .raised r ∧ I.printTraceback r w = .error status w'

/-- An outcome is that of an ending, or of a reporter that ends the process. -/
def Settles (ending : Ending V) (w : World M) (outcome : Outcome) : Prop :=
  (∀ status, I.Quits o ending w status → outcome = .exited status) ∧
  ((∀ status, ¬ I.Quits o ending w status) → outcome = ending.outcome o.language)

theorem settles_failure (r : Raised V) :
    I.Settles o (.raised r) w (leaves id (I.failure o r w)) := by
  cases ht : o.traceback with
  | false =>
    rw [I.failure_eq ht]
    refine ⟨?_, fun _ => rfl⟩
    rintro status ⟨htrue, -⟩
    rw [ht] at htrue
    cases htrue
  | true =>
    have hprinted : leaves id (I.failure o r w) =
        leaves (fun _ => .runtimeFailed (r.failure o.language)) (I.printTraceback r w) := by
      unfold failure
      rw [ht]
      exact leaves_bind fun _ _ => rfl
    rw [hprinted]
    cases hprint : I.printTraceback r w with
    | ok u w' =>
      refine ⟨?_, fun _ => rfl⟩
      rintro status ⟨-, r', w'', hr, hquit⟩
      cases hr
      rw [hprint] at hquit
      cases hquit
    | error status w' =>
      refine ⟨?_, fun hstays => absurd ⟨ht, r, w', rfl, hprint⟩ (hstays status)⟩
      rintro status' ⟨-, r', w'', hr, hquit⟩
      cases hr
      rw [hprint] at hquit
      cases hquit
      rfl

theorem settles_settle (ending : Ending V) :
    I.Settles o ending w (leaves id (I.settle o ending w)) := by
  have hquiet (hne : ∀ r, ending ≠ .raised r) (status : Int) : ¬ I.Quits o ending w status := by
    rintro ⟨-, r, w', hr, -⟩
    exact hne r hr
  cases ending with
  | completed => exact ⟨fun _ h => absurd h (hquiet nofun _), fun _ => rfl⟩
  | exited code => exact ⟨fun _ h => absurd h (hquiet nofun _), fun _ => rfl⟩
  | raised r => exact I.settles_failure o w r

theorem leaves_runIn (globals : Address) (code : Text) :
    leaves id (I.runIn o globals code w) =
      leaves id (I.settle o (I.run code globals w).1 (I.run code globals w).2) := by
  change leaves id ((I.settle o (I.run code globals w).1 >>= _) (I.run code globals w).2) = _
  exact leaves_bind fun _ _ => rfl

theorem settles_runCode (code : Text) :
    I.Settles o (I.finish .stdout code w).1 (I.finish .stdout code w).2
      (leaves Prod.snd (I.runCode o .stdout code w)) := by
  unfold finish
  cases h : I.prepare .stdout w with
  | error r w' =>
    have hfailure : leaves Prod.snd (I.giveUp o r w') = leaves id (I.failure o r w') :=
      leaves_bind fun _ _ => rfl
    rw [runCode_of_error h, hfailure]
    exact I.settles_failure o w' r
  | ok p w' =>
    obtain ⟨b, globals⟩ := p
    obtain rfl : b = none := by simpa using I.isSome_buffer_of_prepare_iff .stdout h
    have hrun : leaves Prod.snd ((I.runIn o globals code >>= I.collect o none) w') =
        leaves id (I.runIn o globals code w') := leaves_bind fun _ _ => rfl
    rw [runCode_of_ok h, hrun, I.leaves_runIn]
    exact I.settles_settle o _ _

theorem leaves_attempt (source : Text) :
    leaves Execution.outcome (I.attempt o .stdout source w) =
      leaves Prod.snd (I.runTranslation o .stdout (Translation.of I.parse source) w) := by
  have hreport (t : Translation) (r : Text × Outcome) (w' : World M) : leaves Execution.outcome
      ((do return ⟨t, ← report .stdout r.1 r.2, r.2⟩ : Session M Execution) w') = r.2 := by
    simp only [bind, EStateM.bind, report_stdout]
    rfl
  exact leaves_bind (hreport _)

theorem outcome_execute (source : Text) :
    (I.execute o sink source w).1.outcome = leaves Execution.outcome (I.attempt o sink source w) := by
  unfold execute
  cases I.attempt o sink source w <;> rfl

/-- The outcome of a source is the objection to its text, or the ending of the text settles it. -/
theorem settles_execute (source : Text) :
    match (Translation.of I.parse source).error with
    | some e => (I.execute o .stdout source w).1.outcome = .translationFailed e
    | none => I.Settles o (I.finish .stdout (substitute source) w).1
        (I.finish .stdout (substitute source) w).2 (I.execute o .stdout source w).1.outcome := by
  rw [outcome_execute, leaves_attempt, ← Translation.code_of I.parse source]
  generalize Translation.of I.parse source = t
  unfold runTranslation
  cases t.error with
  | some e => rfl
  | none => exact I.settles_runCode o w t.code

end Interpreter

/-! ## What a call writes -/

namespace CommandLine

/-- The lines for events, of which the first comes behind `n` others. -/
def logged (line : Nat → LogEvent → Text) : (n : Nat) → List LogEvent → Text
  | _, [] => []
  | n, e :: es => line n e ++ logged line (n + 1) es

variable {line : Nat → LogEvent → Text}

theorem logged_append (n : Nat) (es es' : List LogEvent) :
    logged line n (es ++ es') = logged line n es ++ logged line (n + es.length) es' := by
  induction es generalizing n with
  | nil => rfl
  | cons e es ih =>
    rw [List.cons_append, logged, logged, ih, List.append_assoc, List.length_cons,
      Nat.add_assoc n 1, Nat.add_comm 1]

/-- The streams after a log on the error stream was told of events. -/
def Streams.told (line : Nat → LogEvent → Text) (s : Streams) (es : List LogEvent) : Streams :=
  { s with stderr := s.stderr ++ logged line s.events es, events := s.events + es.length }

theorem Streams.told_told (s : Streams) (es es' : List LogEvent) :
    (s.told line es).told line es' = s.told line (es ++ es') := by
  simp only [told, logged_append, List.append_assoc, List.length_append, Nat.add_assoc]

theorem Streams.told_nil (s : Streams) : s.told line [] = s := by
  simp [told, logged]

theorem tell_eq (e : LogEvent) (s : Streams) :
    Log.tell ⟨.stderr, line⟩ e s = .ok () (s.told line [e]) := by
  simp only [Streams.told, logged, List.append_nil, List.length_singleton]
  rfl

/-- What a call tells the log of bytes that stand for no text. -/
def faultEvents (path : Text) (bs : Bytes) : List LogEvent :=
  if hasFaults bs then [.replaced path (encodingName bs)] else []

theorem readScript_of_ok (path : Text) (bs : Bytes) (s : Streams) :
    readScript ⟨.stderr, line⟩ path (.ok bs) s =
      .ok (decodeScript bs) (s.told line (faultEvents path bs)) := by
  have hfaults : Log.tellFaults ⟨.stderr, line⟩ path bs s =
      .ok () (s.told line (faultEvents path bs)) := by
    unfold Log.tellFaults faultEvents
    split
    · exact tell_eq _ s
    · exact congrArg (EStateM.Result.ok ()) s.told_nil.symm
  exact bind_of_ok hfaults

/-- What a call tells the log of the translation of a source. -/
def translationEvents (parse : Text → Verdict) (source : Text) : List LogEvent :=
  let t := Translation.of parse source
  [.shielded (Shielded.of source).table.length,
    match t.error with
    | none => .validated (Utf8.encode t.code).length
    | some e => .rejected e]

theorem translate_eq (parse : Text → Verdict) (source : Text) (s : Streams) :
    translate ⟨.stderr, line⟩ parse source s =
      .ok (Translation.of parse source) (s.told line (translationEvents parse source)) := by
  unfold translate translationEvents
  obtain ⟨code, error⟩ := Translation.of parse source
  rw [bind_of_ok (tell_eq _ s)]
  cases error with
  | none => exact (bind_of_ok (tell_eq _ _)).trans (congrArg (EStateM.Result.ok _) (s.told_told _ _))
  | some e => exact (bind_of_ok (tell_eq _ _)).trans (congrArg (EStateM.Result.ok _) (s.told_told _ _))

/-- The text of a translation in a format. -/
def EmitFormat.text (t : Translation) : EmitFormat → Text
  | python => t.code
  | json => Json.ofTranslation t ++ "\n"

/-- What the error stream shows beside a translation in a format. -/
def EmitFormat.objection (paint : Text → Text) (t : Translation) : EmitFormat → Text
  | python => (t.error.map fun e => paint e.display ++ "\n").getD []
  | json => []

theorem emit_eq (paint : Text → Text) (format : EmitFormat) (t : Translation) (s : Streams) :
    emit paint format t s = .ok (if t.error.isSome then 1 else 0)
      { s with
        stdout := s.stdout ++ format.text t
        stderr := s.stderr ++ format.objection paint t } := by
  obtain ⟨code, error⟩ := t
  have hquiet (u : Text) : s.write .stdout u =
      { s with stdout := s.stdout ++ u, stderr := s.stderr ++ [] } := by
    rw [List.append_nil]
    rfl
  cases format with
  | python =>
    cases error with
    | none => exact congrArg (EStateM.Result.ok 0) (hquiet code)
    | some e => rfl
  | json =>
    cases error with
    | none => exact congrArg (EStateM.Result.ok 0) (hquiet _)
    | some e => exact congrArg (EStateM.Result.ok 1) (hquiet _)

/-! ## Calls -/

section
variable (f : FrontEnd) (I : Interpreter M V) (start : Language → M) {o : Options}
  {env : Settings.Environment} {read : Text → Except FileError Bytes} {args : List Text} {path : Text}
  {s : Settings} {bs : Bytes}

/-- What a call leaves behind that stops with a message. -/
def stopped (message : Text) : Reply := ⟨"Error: " ++ message ++ "\n", [], 1⟩

/-- The environment is in order and gives these settings, with a log filter that is in order. -/
def Accepted (o : Options) (env : Settings.Environment) (s : Settings) : Prop :=
  o.settings env = .ok s ∧ f.filterFault? s.logFilter = none

/-- The log of a call with some settings. -/
def logOf (s : Settings) : Log := ⟨.stderr, f.logLine s.logFilter⟩

theorem startUp_of_accepted (h : Accepted f o env s) : f.startUp o env = .ok (s, logOf f s) := by
  obtain ⟨hsettings, hfilter⟩ := h
  simp only [FrontEnd.startUp, hsettings, pure_bind, FrontEnd.log, hfilter]
  rfl

theorem startUp_of_fault {causes : List Text} (hsettings : o.settings env = .ok s)
    (hfilter : f.filterFault? s.logFilter = some causes) :
    f.startUp o env = .error (.logFilter s.logFilter causes) := by
  simp only [FrontEnd.startUp, hsettings, pure_bind, FrontEnd.log, hfilter]
  rfl

theorem startUp_of_settings_error {e : SettingsError} (h : o.settings env = .error e) :
    f.startUp o env = .error (.settings e) := by
  simp only [FrontEnd.startUp, h]
  rfl

/-- What a call tells the log that writes the translation of a script. -/
def callEvents (parse : Text → Verdict) (path : Text) (bs : Bytes) : List LogEvent :=
  faultEvents path bs ++ ([.loaded path (Utf8.encode (decodeScript bs)).length] ++
    translationEvents parse (decodeScript bs))

theorem answer_of_error {log : Log} {found : Except FileError Bytes} {e : StartupError}
    (h : scriptText path found = .error e) :
    f.answer I start o env s log path found = stopped e.message := by
  simp only [FrontEnd.answer, FrontEnd.perform, readScript, bind, EStateM.bind, h]
  rfl

/-- A call that writes a translation asks nothing of the interpreter but its parser. What it tells the
log is on the error stream alone. -/
theorem answer_of_emit (hemit : o.emit = true) (bs : Bytes) :
    let t := Translation.of I.parse (decodeScript bs)
    let format := o.format.getD .python
    f.answer I start o env s (logOf f s) path (.ok bs) =
      ⟨format.text t,
        logged (f.logLine s.logFilter) 0 (callEvents I.parse path bs) ++
          format.objection (f.paint env) t,
        if t.error.isSome then 1 else 0⟩ := by
  simp only [FrontEnd.answer, FrontEnd.perform, logOf, bind, EStateM.bind, readScript_of_ok, tell_eq,
    hemit, if_true, translate_eq, Streams.told_told, emit_eq, callEvents, List.append_assoc]
  rfl

/-- The status of a call that runs its script. -/
theorem status_answer_of_run (hemit : o.emit = false) (bs : Bytes) :
    (f.answer I start o env s (logOf f s) path (.ok bs)).status =
      processStatus (I.execute ⟨s.language, s.traceback⟩ .stdout (decodeScript bs)
        ⟨start s.language, .empty⟩).1.outcome.exitStatus := by
  simp only [FrontEnd.answer, FrontEnd.perform, logOf, bind, EStateM.bind, readScript_of_ok, tell_eq,
    hemit, Bool.false_eq_true, if_false]
  rfl

/-- The outcome of a source that runs in a state of the interpreter, and the status of the process. -/
structure Ran (s : Settings) (source : Text) (m : M) (outcome : Outcome) (status : Nat) : Prop where
  rejected : ∀ e, (Translation.of I.parse source).error = some e →
    outcome = .translationFailed e ∧ status = 0
  ended : ∀ ending w, (Translation.of I.parse source).error = none →
    I.finish .stdout (substitute source) ⟨m, .empty⟩ = (ending, w) →
    (∀ code, ¬ I.Quits ⟨s.language, s.traceback⟩ ending w code) →
    outcome = ending.outcome s.language ∧ status = ending.shownStatus
  quit : ∀ ending w code, (Translation.of I.parse source).error = none →
    I.finish .stdout (substitute source) ⟨m, .empty⟩ = (ending, w) →
    I.Quits ⟨s.language, s.traceback⟩ ending w code →
    outcome = .exited code ∧ status = processStatus code

theorem ran_execute (s : Settings) (source : Text) (m : M) :
    let e := (I.execute ⟨s.language, s.traceback⟩ .stdout source ⟨m, .empty⟩).1
    Ran I s source m e.outcome (processStatus e.outcome.exitStatus) := by
  have hsettles := I.settles_execute ⟨s.language, s.traceback⟩ ⟨m, .empty⟩ source
  dsimp only
  generalize (I.execute ⟨s.language, s.traceback⟩ .stdout source ⟨m, .empty⟩).1.outcome = outcome
    at hsettles
  refine ⟨fun e he => ?_, fun ending w he hw hstays => ?_, fun ending w code he hw hquits => ?_⟩
  · rw [he] at hsettles
    rw [hsettles]
    exact ⟨rfl, rfl⟩
  · rw [he, hw] at hsettles
    have houtcome := hsettles.2 hstays
    rw [houtcome]
    exact ⟨rfl, ending.processStatus_outcome s.language⟩
  · rw [he, hw] at hsettles
    rw [hsettles.1 code hquits]
    exact ⟨rfl, rfl⟩

/-- What a call does that names the script at a path. -/
structure Staged (o : Options) (env : Settings.Environment) (read : Text → Except FileError Bytes)
    (args : List Text) (path : Text) : Prop where
  /-- A wrong environment ends the call before anything is read. -/
  settings : ∀ e, o.settings env = .error e → f.plan I start env args = .reply (stopped e.message)
  /-- So does a wrong log filter. -/
  logFilter : ∀ s causes, o.settings env = .ok s → f.filterFault? s.logFilter = some causes →
    f.plan I start env args = .reply (stopped (StartupError.logFilter s.logFilter causes).message)
  /-- Then the script is read, and nothing else. -/
  reading : ∀ s, Accepted f o env s → ∃ next, f.plan I start env args = .read path next ∧
    ∀ found e, scriptText path found = .error e → next found = stopped e.message
  unread : ∀ s e, Accepted f o env s → scriptText path (read path) = .error e →
    f.run I start env read args = stopped e.message
  /-- To write a translation, only the parser of the interpreter is asked. -/
  emitted : ∀ s bs, Accepted f o env s → read path = .ok bs → o.emit = true →
    let t := Translation.of I.parse (decodeScript bs)
    let format := o.format.getD .python
    f.run I start env read args =
      ⟨format.text t,
        logged (f.logLine s.logFilter) 0 (callEvents I.parse path bs) ++
          format.objection (f.paint env) t,
        if t.error.isSome then 1 else 0⟩
  ran : ∀ s bs, Accepted f o env s → read path = .ok bs → o.emit = false →
    Ran I s (decodeScript bs) (start s.language)
      (I.execute ⟨s.language, s.traceback⟩ .stdout (decodeScript bs)
        ⟨start s.language, .empty⟩).1.outcome
      (f.run I start env read args).status

section
variable (ho : f.request args = .start o) (hpath : o.script = some path)
include ho hpath

theorem plan_of_startUp_error {e : StartupError} (h : f.startUp o env = .error e) :
    f.plan I start env args = .reply e.reply := by
  simp only [FrontEnd.plan, ho, hpath, h]

theorem plan_of_accepted (h : Accepted f o env s) :
    f.plan I start env args = .read path (f.answer I start o env s (logOf f s) path) := by
  simp only [FrontEnd.plan, ho, hpath, startUp_of_accepted f h]

theorem run_of_accepted (h : Accepted f o env s) :
    f.run I start env read args = f.answer I start o env s (logOf f s) path (read path) := by
  simp only [FrontEnd.run, plan_of_accepted f I start ho hpath h]

end

/-- A call that names a script goes through its stages in order. A script exits just when it raises an
exception that asks for it and has a code, and the code is what the exception gives. -/
theorem run_staged (ho : f.request args = .start o) (hpath : o.script = some path) :
    Staged f I start o env read args path ∧
    (∀ setup t globals w code w', (Machine.interpreter setup).run t globals w = (.exited code, w') ↔
      ∃ r w₁, Machine.runProgram t globals w = .error (.raised r) w₁ ∧ Machine.AsksToExit r w₁ ∧
        Machine.exitCode r w₁ = .ok code w') ∧
    ∀ r w code w', Machine.exitCode r w = .ok code w' → Machine.Gives r w code := by
  refine ⟨⟨fun e he => ?_, fun s causes hs hf => ?_, fun s hs => ?_, fun s e hs he => ?_,
    fun s bs hs hread hemit => ?_, fun s bs hs hread hemit => ?_⟩,
    fun _ _ _ _ _ _ => Machine.run_eq_exited_iff, fun _ _ _ _ => Machine.gives_of_exitCode⟩
  · exact plan_of_startUp_error f I start ho hpath (startUp_of_settings_error f he)
  · exact plan_of_startUp_error f I start ho hpath (startUp_of_fault f hs hf)
  · exact ⟨_, plan_of_accepted f I start ho hpath hs,
      fun found e he => answer_of_error f I start he⟩
  · rw [run_of_accepted f I start ho hpath hs, answer_of_error f I start he]
  · rw [run_of_accepted f I start ho hpath hs, hread]
    exact answer_of_emit f I start hemit bs
  · rw [run_of_accepted f I start ho hpath hs, hread, status_answer_of_run f I start hemit]
    exact ran_execute I s (decodeScript bs) (start s.language)

end

/-- A failure counts as handled, when nobody asks for its traceback. -/
theorem run_staged_raised :
    (run Interpreter.quitting (fun _ => ()) (fun _ => none) (fun _ => .ok []) ["a.py".toList]).status =
      0 := by
  have hstaged : Staged (.standard false) Interpreter.quitting (fun _ => ())
      { Options.none with script := some "a.py".toList } (fun _ => none) (fun _ => .ok [])
      ["a.py".toList] "a.py".toList := (run_staged _ _ _ rfl rfl).1
  have hran := hstaged.ran Settings.initial [] ⟨rfl, rfl⟩ rfl rfl
  refine (hran.ended _ _ rfl rfl fun code hquits => ?_).2
  exact Bool.noConfusion hquits.1

/-- When a traceback is asked for, the reporter may end the process with another status than that of
the ending. -/
theorem not_status_shown_of_raised :
    ¬ ∀ (r : Raised Unit) (w : World Unit),
      Interpreter.quitting.finish .stdout [] ⟨(), .empty⟩ = (.raised r, w) →
      (run Interpreter.quitting (fun _ => ()) (fun _ => none) (fun _ => .ok [])
        ["--traceback".toList, "a.py".toList]).status = (Ending.raised r).shownStatus := by
  intro h
  have hzero := h _ _ rfl
  have hthree : (run Interpreter.quitting (fun _ => ()) (fun _ => none) (fun _ => .ok [])
      ["--traceback".toList, "a.py".toList]).status = 3 := rfl
  rw [hthree] at hzero
  cases hzero

end CommandLine

end ThaiScript
