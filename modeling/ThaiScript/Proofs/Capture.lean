import ThaiScript.Proofs.Printing

/-!
# What is left of captured output

The buffer of a run is read last, and only then are the captured output and the outcome of the run
returned. As long as the buffer can be read they are what the run made of them; once it is closed,
or holds what no text stands for, both are lost, and the failure to read it is all that is told:
`attempt_capture_output`.
-/

namespace ThaiScript

variable {M V : Type}

/-! ## What can happen to a buffer -/

inductive BufferEvent
  | print (p : Points)
  | close
  /-- What is in the buffer is taken back or written over. -/
  | replace (p : Points)
deriving DecidableEq, Repr

namespace BufferEvent

/-- The buffer after an event. Nothing happens to one that is closed. -/
def apply (c : Option Points) : BufferEvent → Option Points
  | print p => c.map (· ++ p)
  | close => none
  | replace p => c.map fun _ => p

theorem foldl_apply_print (ts : List Text) (t : Text) :
    (ts.map fun u => print u.points).foldl apply (some t.points) =
      some (Text.points (t ++ ts.flatten)) := by
  induction ts generalizing t with
  | nil => simp
  | cons u ts ih =>
    have happly : apply (some t.points) (print u.points) = some (Text.points (t ++ u)) := by
      simp [apply, Text.points]
    rw [List.map_cons, List.foldl_cons, happly, ih, List.flatten_cons, List.append_assoc]

end BufferEvent

/-- The text that is read from a buffer, if there is one. -/
def readText? (c : Option Points) : Option Text :=
  c.bind fun p => if p.hasSurrogate then none else some p.lossy

theorem readText?_points (t : Text) : readText? (some t.points) = some t := by
  simp [readText?, Text.hasSurrogate_points, Points.lossy_points]

namespace Printing

variable {I : Interpreter M V} (P : Printing I) {b : V} {w : World M}

theorem readBuffer_of_some (hb : P.isBuffer b) {t : Text}
    (h : readText? (P.contents b w.machine) = some t) : ∃ w', I.readBuffer b w = .ok t w' := by
  obtain ⟨p, hp, ht⟩ := Option.bind_eq_some_iff.mp h
  cases hs : p.hasSurrogate with
  | true => simp [hs] at ht
  | false =>
    obtain ⟨w', hread⟩ := P.readBuffer_of_text hb hp hs
    exact ⟨w', hread.trans (by simpa [hs] using ht)⟩

theorem readBuffer_of_none (hb : P.isBuffer b) (h : readText? (P.contents b w.machine) = none) :
    ∃ r w', I.readBuffer b w = .error r w' := by
  refine P.readBuffer_of_no_text hb fun p hp => ?_
  cases hs : p.hasSurrogate with
  | true => rfl
  | false => simp [readText?, hp, hs] at h

end Printing

namespace Interpreter

open BufferEvent

variable (I : Interpreter M V) (P : Printing I) {o : SessionOptions} {w w₀ w₁ : World M}
  {source : Text} {globals : Address} {b : V} {ts : List Text} {events : List BufferEvent}

/-- How the run of a script ends of which the first print calls write `ts`, and after which the
buffer goes through `events`. -/
theorem Ends.of_calls {text : Text} {outcome : Outcome} (hintact : P.intact w.machine)
    (hprepare : I.prepare .capture w = .ok (some b, globals) w₀)
    (hcalls : P.Calls (fun w w' => P.contents b w'.machine = P.contents b w.machine)
      (P.namesAt globals w₀) (ts.map Text.points) w₀ w₁)
    (hevents : ∀ outcome w', I.runIn o globals (substitute source) w₀ = .ok outcome w' →
      P.contents b w'.machine = events.foldl apply (P.contents b w₁.machine))
    (h : I.Ends o .capture (substitute source) w text outcome) :
    match readText? (events.foldl apply (some (Text.points ts.flatten))) with
    | some t => text = t ∧ outcome =
        (I.run (substitute source) globals w₀).1.outcome o.language
    | none => text = [] ∧ ∃ r w' w'', I.readBuffer b w' = .error r w'' ∧
        outcome = .runtimeFailed (r.failure o.language) := by
  obtain ⟨b', globals', w', hprepare', hb, hempty, -, -, hnames⟩ := P.exists_prepare_capture hintact
  cases hprepare.symm.trans hprepare'
  have hstart : P.contents b w₁.machine = some (Text.points ts.flatten) := by
    rw [hcalls.contents_eq hb hnames fun _ _ h => h]
    simp only [hempty, Option.map_some, List.nil_append, Text.flatten_map_points]
  rw [hstart] at hevents
  cases h with
  | unprepared h => cases hprepare.symm.trans h
  | uncaptured hs => cases hs
  | captured _ h hrun hread =>
    cases hprepare.symm.trans h
    rw [← hevents _ _ hrun]
    split
    · next t ht =>
      obtain ⟨w₂, hread'⟩ := P.readBuffer_of_some hb ht
      cases hread'.symm.trans hread
      exact ⟨rfl, rfl⟩
    · next ht =>
      obtain ⟨r, w₂, hread'⟩ := P.readBuffer_of_none hb ht
      cases hread'.symm.trans hread
  | unread _ h hrun hread =>
    cases hprepare.symm.trans h
    rw [← hevents _ _ hrun]
    split
    · next t ht =>
      obtain ⟨w₂, hread'⟩ := P.readBuffer_of_some hb ht
      cases hread'.symm.trans hread
    · exact ⟨rfl, _, _, _, hread, rfl⟩

/-- The execution of a script of which the first print calls write `ts`, and after which the buffer
goes through `events`. As long as the buffer can be read at the end, what it holds is in front of
the report and the outcome is that of the script; else both are lost to the failure to read it. A
script that goes on by printing texts keeps everything. -/
theorem attempt_capture_output {ending : Ending V}
    (haccept : I.parse (substitute source) = .accepted)
    (hintact : P.intact w.machine)
    (hprepare : I.prepare .capture w = .ok (some b, globals) w₀)
    (hending : (I.run (substitute source) globals w₀).1 = ending)
    (hcalls : P.Calls (fun w w' => P.contents b w'.machine = P.contents b w.machine)
      (P.namesAt globals w₀) (ts.map Text.points) w₀ w₁)
    (hevents : ∀ outcome w', I.runIn o globals (substitute source) w₀ = .ok outcome w' →
      P.contents b w'.machine = events.foldl apply (P.contents b w₁.machine)) :
    I.Returns o (I.attempt o .capture source w) fun e =>
      (match readText? (events.foldl apply (some (Text.points ts.flatten))) with
        | some t => e.output = t ++ e.outcome.reportText ∧ e.outcome = ending.outcome o.language ∧
          ∀ c shown, ending = .exited (.integer c shown) → isStatus c = true → e.outcome = .exited c
        | none => e.output = e.outcome.reportText ∧ ∃ r w' w'', I.readBuffer b w' = .error r w'' ∧
          e.outcome = .runtimeFailed (r.failure o.language)) ∧
      ∀ more : List Text, events = more.map (fun t => print t.points) →
        e.output = ts.flatten ++ more.flatten ++ e.outcome.reportText ∧
        e.outcome = ending.outcome o.language := by
  refine (I.returns_attempt o .capture w source).imp fun e he => ?_
  obtain ⟨captured, hends, -, houtput⟩ := he.ends
  have hrun := hends (he.error_eq_none_iff.mpr haccept)
  rw [he.code_eq] at hrun
  have hread := Ends.of_calls I P hintact hprepare hcalls hevents hrun
  rw [hending] at hread
  refine ⟨?_, fun more hmore => ?_⟩
  · split at hread
    · obtain ⟨rfl, houtcome⟩ := hread
      refine ⟨houtput, houtcome, fun c shown hexit hc => ?_⟩
      rw [houtcome, hexit]
      simp only [Ending.outcome, ExitCode.status, hc, if_true]
    · obtain ⟨rfl, hfailed⟩ := hread
      exact ⟨houtput, hfailed⟩
  · rw [hmore, foldl_apply_print, readText?_points] at hread
    obtain ⟨rfl, houtcome⟩ := hread
    exact ⟨houtput, houtcome⟩

/-- A script that prints under both names of print, and exits. -/
def printsAndExits : Script Text :=
  .print .globals "print" (Text.points "x\n") fun _ =>
    .print .globals "พิมพ์" (Text.points "y\n") fun _ => .finish (.exited (.integer 3 "3"))

theorem attempt_capture_output_printsAndExits :
    ∃ e w', (Scripted.named fun _ => printsAndExits).interpreter.attempt ⟨.thai, false⟩ .capture []
        Scripted.namedStart = .ok e w' ∧
      e.output = "x\ny\n".toList ∧ e.outcome = .exited 3 := by
  let P := Scripted.printing fun _ => printsAndExits
  obtain ⟨b, g, w, hprepare, -, -, -, -, hnames⟩ :=
    P.exists_prepare_capture (w := Scripted.namedStart) rfl
  have hname : "print".toList ∈ printNames := by decide
  have hending : ((Scripted.named fun _ => printsAndExits).interpreter.run [] g w).1 =
      .exited (.integer 3 "3") := by
    cases hprepare
    rfl
  have hreturns := @attempt_capture_output _ _ _ P ⟨.thai, false⟩ Scripted.namedStart w _ []
    g b ["x\n"] [.print (Text.points "y\n")] _ rfl rfl hprepare hending
    (.print hname (hnames _ hname) (.done _))
    (by cases hprepare; rintro _ _ ⟨⟩; rfl)
  cases hattempt : (Scripted.named fun _ => printsAndExits).interpreter.attempt ⟨.thai, false⟩
      .capture [] Scripted.namedStart with
  | error status w' =>
    rw [hattempt] at hreturns
    exact Bool.noConfusion hreturns.1
  | ok e w' =>
    rw [hattempt] at hreturns
    obtain ⟨houtput, houtcome⟩ := hreturns.2 ["y\n"] rfl
    refine ⟨e, w', rfl, ?_, houtcome⟩
    rw [houtput, houtcome]
    rfl

/-- A script prints, closes the buffer and exits with status 3. What it printed is lost, and so is
its status. -/
theorem attempt_capture_closed :
    ∃ e w', (Scripted.named fun _ => .print .globals "print" (Text.points "x\n") fun _ =>
        .close .globals "print" (.finish (.exited (.integer 3 "3")))).interpreter.attempt
          ⟨.thai, false⟩ .capture [] Scripted.namedStart = .ok e w' ∧
      ¬ "x\n".toList <+: e.output ∧ e.outcome ≠ .exited 3 :=
  ⟨_, _, rfl, by decide +kernel, by decide +kernel⟩

end Interpreter

end ThaiScript
