import ThaiScript.Proofs.Printing

/-!
# The two sinks agree

A script that writes by print alone writes the same texts into a buffer that it would write to the
output stream. With the report behind them, they make up the output that is returned in the one
case, and what stands on the output stream in the other.
-/

namespace ThaiScript

variable {M V : Type}

namespace Printing

variable {I : Interpreter M V} (P : Printing I)

/-- Nothing was written to the output stream or to a buffer. -/
structure Unwritten (w w' : World M) : Prop where
  written_eq : w'.console.out.written = w.console.out.written
  contents_eq : ∀ b, P.contents b w'.machine = P.contents b w.machine
  intact : P.intact w.machine → P.intact w'.machine

variable {P} {globals : Dictionary V} {ts : List Text} {w w' : World M}

/-- What is printed ends up on the output stream. -/
theorem Calls.written_eq (hnames : ∀ name ∈ printNames, globals.find? name = some P.print)
    (h : P.Calls P.Unwritten globals (ts.map Text.points) w w') (hw : P.intact w.machine) :
    w'.console.out.written = w.console.out.written ++ ts.flatten ∧ P.intact w'.machine := by
  generalize hps : ts.map Text.points = ps at h
  induction h generalizing ts with
  | done w =>
    obtain rfl := List.map_eq_nil_iff.mp hps
    exact ⟨by simp, hw⟩
  | between hquiet _ ih =>
    obtain ⟨hwritten, hintact⟩ := ih (hquiet.intact hw) hps
    exact ⟨hwritten.trans (by rw [hquiet.written_eq]), hintact⟩
  | print hname hf _ ih =>
    obtain ⟨t, ts, rfl, rfl, rfl⟩ := List.map_eq_cons_iff.mp hps
    obtain rfl := Option.some.inj (hf.symm.trans (hnames _ hname))
    obtain ⟨hwritten, hintact⟩ := ih (P.intact_call_print hw _) rfl
    refine ⟨hwritten.trans ?_, hintact⟩
    rw [P.written_call hw, List.flatten_cons, List.append_assoc]

/-- What is printed by a function that is bound to a buffer is not on the output stream. -/
theorem Calls.written_eq_of_bound {b : V} {ps : List Points} (hb : P.isBuffer b)
    (hnames : ∀ name ∈ printNames, globals.find? name = some (P.bound b))
    (h : P.Calls P.Unwritten globals ps w w') (hw : P.intact w.machine) :
    w'.console.out.written = w.console.out.written ∧ P.intact w'.machine := by
  induction h with
  | done w => exact ⟨rfl, hw⟩
  | between hquiet _ ih =>
    obtain ⟨hwritten, hintact⟩ := ih (hquiet.intact hw)
    exact ⟨hwritten.trans hquiet.written_eq, hintact⟩
  | print hname hf _ ih =>
    obtain rfl := Option.some.inj (hf.symm.trans (hnames _ hname))
    obtain ⟨hwritten, hintact⟩ := ih (P.intact_call_bound hb hw _)
    exact ⟨hwritten.trans (by rw [P.console_call hb]), hintact⟩

end Printing

/-! ## Scripts that print -/

/-- A script that prints texts, each by a name, and ends. -/
def Script.prints {B : Type} (ending : Ending B) : List (Text × Text) → Script B
  | [] => .finish ending
  | (name, t) :: calls => .print .globals name t.points fun _ => prints ending calls

theorem Script.fst_run_prints {B : Type} (isPrint : B → Bool) (g : Address) (ending : Ending B)
    (calls : List (Text × Text)) (w : World (Memory B)) :
    ((prints ending calls).run isPrint g w).1 = ending.map .plain := by
  induction calls generalizing w with
  | nil => rfl
  | cons c calls ih => exact ih _

namespace Scripted

variable {script : Text → Script Text} {ending : Ending Text} {calls : List (Text × Text)}
  {globals : Dictionary (Item Text Address)}

theorem calls_prints {g : Address} {w : World (Memory Text)}
    (hcalls : ∀ c ∈ calls, c.1 ∈ printNames ∧ ∃ f, globals.find? c.1 = some f)
    (hg : w.machine.dictionary g = globals) :
    (printing script).Calls (printing script).Unwritten globals
      ((calls.map (·.2)).map Text.points) w
      ((Script.prints ending calls).run (named script).isPrint g w).2 := by
  induction calls generalizing w with
  | nil => exact .done w
  | cons c calls ih =>
    obtain ⟨hname, f, hf⟩ := hcalls c List.mem_cons_self
    have hvalue : w.valueOf? g .globals c.1 = some f := by rw [← hf, ← hg]; rfl
    refine .print hname hf ?_
    simp only [Script.prints, Script.run, hvalue]
    refine ih (fun c hc => hcalls c (List.mem_cons_of_mem _ hc)) ?_
    rw [← hg]
    exact w.dictionary_call ..

/-- Where the builtins are in place, a script that prints by the names of print calls print, and
ends as it does, in whatever namespace it runs. -/
theorem ending_and_calls_run (code : Text) {w w₀ : World (Memory Text)} {sink : Sink}
    {b : Option (Item Text Address)} {g : Address} (hscript : script code = .prints ending calls)
    (hcalls : ∀ c ∈ calls, c.1 ∈ printNames) (hintact : (printing script).intact w.machine)
    (hprepare : (named script).interpreter.prepare sink w = .ok (b, g) w₀) :
    ((named script).interpreter.run code g w₀).1 = ending.map .plain ∧
    (printing script).Calls (printing script).Unwritten ((printing script).namesAt g w₀)
      ((calls.map (·.2)).map Text.points) w₀ ((named script).interpreter.run code g w₀).2 := by
  obtain ⟨f, hf⟩ : ∃ f, ∀ name ∈ printNames,
      ((printing script).namesAt g w₀).find? name = some f := by
    cases sink with
    | stdout =>
      obtain ⟨g', w', hprepare', -, hnames⟩ := (printing script).exists_prepare_stdout hintact
      cases hprepare.symm.trans hprepare'
      exact ⟨_, hnames⟩
    | capture =>
      obtain ⟨b', g', w', hprepare', -, -, -, -, hnames⟩ :=
        (printing script).exists_prepare_capture hintact
      cases hprepare.symm.trans hprepare'
      exact ⟨_, hnames⟩
  have hrun : (named script).interpreter.run code g w₀ =
      (Script.prints ending calls).run (named script).isPrint g w₀ := by
    rw [← hscript]
    rfl
  rw [hrun]
  exact ⟨Script.fst_run_prints ..,
    calls_prints (fun c hc => ⟨hcalls c hc, f, hf _ (hcalls c hc)⟩) rfl⟩

end Scripted

namespace Interpreter

variable (I : Interpreter M V) (P : Printing I) {o : SessionOptions} {w : World M} {source : Text}
  {ts : List Text}

/-- With print bound to the buffer of the run, the attempt returns what was printed. -/
theorem attempt_capture_of_calls (ht : o.traceback = false)
    (haccept : I.parse (substitute source) = .accepted) (hintact : P.intact w.machine)
    (hcalls : ∀ b g w₀, I.prepare .capture w = .ok (b, g) w₀ →
      P.Calls P.Unwritten (P.namesAt g w₀) (ts.map Text.points) w₀
        (I.run (substitute source) g w₀).2) :
    ∃ b g w₀ w', I.prepare .capture w = .ok (b, g) w₀ ∧
      let outcome := (I.run (substitute source) g w₀).1.outcome o.language
      I.attempt o .capture source w =
        .ok ⟨⟨substitute source, none⟩, ts.flatten ++ outcome.reportText, outcome⟩ w' := by
  obtain ⟨b, g, w₀, hprepare, hb, hempty, hw₀, -, hnames⟩ := P.exists_prepare_capture hintact
  have hcalls := hcalls _ _ _ hprepare
  have hcontents := hcalls.contents_eq hb hnames fun _ _ h => h.contents_eq b
  obtain ⟨-, hw₁⟩ := hcalls.written_eq_of_bound hb hnames hw₀
  have hbuffer : P.contents b (I.worldAfter (substitute source) g w₀).machine =
      some (Text.points ts.flatten) := by
    rw [P.contents_worldAfter hw₁, hcontents]
    simp only [hempty, Option.map_some, List.nil_append, Text.flatten_map_points]
  obtain ⟨w', hread⟩ := P.readBuffer_of_text hb hbuffer (Text.hasSurrogate_points _)
  rw [Points.lossy_points] at hread
  exact ⟨some b, g, w₀, w', hprepare, I.attempt_capture haccept ht hprepare hread⟩

/-- With print as it is, the output stream gets what was printed, and the report behind it. -/
theorem attempt_stdout_of_calls (ht : o.traceback = false)
    (haccept : I.parse (substitute source) = .accepted) (hintact : P.intact w.machine)
    (hcalls : ∀ b g w₀, I.prepare .stdout w = .ok (b, g) w₀ →
      P.Calls P.Unwritten (P.namesAt g w₀) (ts.map Text.points) w₀
        (I.run (substitute source) g w₀).2) :
    ∃ g w₀ w', I.prepare .stdout w = .ok (none, g) w₀ ∧
      let outcome := (I.run (substitute source) g w₀).1.outcome o.language
      I.attempt o .stdout source w = .ok ⟨⟨substitute source, none⟩, [], outcome⟩ w' ∧
      w'.console.out = ⟨w.console.out.written ++ ts.flatten ++ outcome.reportText, []⟩ := by
  obtain ⟨g, w₀, hprepare, hunseen, hnames⟩ := P.exists_prepare_stdout hintact
  obtain ⟨hwritten, hw₁⟩ := (hcalls _ _ _ hprepare).written_eq hnames (hunseen.intact hintact)
  refine ⟨g, w₀, _, hprepare, I.attempt_stdout haccept ht hprepare, ?_⟩
  rw [← hunseen.console_eq, ← hwritten, World.deliverOut, P.out_worldAfter hw₁]
  rfl

/-- A script that writes by print alone, and does not look at what print is, comes to the same
outcome with either sink; the output that is captured is what is put on the output stream, behind
what waited there. -/
theorem sinks_agree {ending : Ending Unit}
    (ht : o.traceback = false)
    (haccept : I.parse (substitute source) = .accepted)
    (hintact : P.intact w.machine)
    (hscript : ∀ sink b g w₀, I.prepare sink w = .ok (b, g) w₀ →
      (I.run (substitute source) g w₀).1.map (fun _ => ()) = ending ∧
      P.Calls P.Unwritten (P.namesAt g w₀) (ts.map Text.points) w₀
        (I.run (substitute source) g w₀).2) :
    ∃ e w₁ e' w₂, I.attempt o .capture source w = .ok e w₁ ∧
      I.attempt o .stdout source w = .ok e' w₂ ∧
      w₂.console.out = ⟨w.console.out.written ++ e.output, []⟩ ∧
      e.output = ts.flatten ++ e.outcome.reportText ∧
      e.translation = e'.translation ∧ e.outcome = e'.outcome ∧
      e.outcome = ending.outcome o.language := by
  have houtcome {sink b g w₀} (h : I.prepare sink w = .ok (b, g) w₀) :
      (I.run (substitute source) g w₀).1.outcome o.language = ending.outcome o.language := by
    rw [← (hscript sink b g w₀ h).1, Ending.outcome_map]
  obtain ⟨b, g₁, w₁, w₁', hprepare₁, hcapture⟩ :=
    I.attempt_capture_of_calls P ht haccept hintact fun b g w₀ h => (hscript _ b g w₀ h).2
  obtain ⟨g₂, w₂, w₂', hprepare₂, hstdout, hout⟩ :=
    I.attempt_stdout_of_calls P ht haccept hintact fun b g w₀ h => (hscript _ b g w₀ h).2
  rw [houtcome hprepare₁] at hcapture
  rw [houtcome hprepare₂] at hstdout hout
  exact ⟨_, w₁', _, w₂', hcapture, hstdout, hout.trans (by rw [List.append_assoc]), rfl, rfl,
    rfl, rfl⟩

/-- A script that prints under both names of print, and fails. -/
def printsAndFails : Script Text :=
  .prints (.raised ⟨"ZeroDivisionError", "division by zero", []⟩)
    [("print", "ก\n"), ("พิมพ์", "ข\n")]

theorem sinks_agree_printsAndFails :
    ∃ e w₁ e' w₂,
      (Scripted.named fun _ => printsAndFails).interpreter.attempt ⟨.thai, false⟩ .capture []
        Scripted.namedStart = .ok e w₁ ∧
      (Scripted.named fun _ => printsAndFails).interpreter.attempt ⟨.thai, false⟩ .stdout []
        Scripted.namedStart = .ok e' w₂ ∧
      w₂.console.out.delivered = e.output ∧
      e.output = "ก\nข\nRuntime error: หารด้วยศูนย์\n".toList ∧ e.outcome = e'.outcome := by
  obtain ⟨e, w₁, e', w₂, hcapture, hstdout, hout, houtput, -, hsame, houtcome⟩ :=
    @sinks_agree _ _ _ (Scripted.printing fun _ => printsAndFails) ⟨.thai, false⟩
      Scripted.namedStart [] _ (.raised ⟨"ZeroDivisionError", "division by zero", ()⟩) rfl rfl rfl
      fun sink b g w₀ h => by
        obtain ⟨hending, hcalls⟩ := Scripted.ending_and_calls_run [] rfl (by decide) rfl h
        exact ⟨congrArg (Ending.map _) hending, hcalls⟩
  refine ⟨e, w₁, e', w₂, hcapture, hstdout, congrArg Channel.delivered hout, ?_, hsame⟩
  rw [houtput, houtcome]
  decide +kernel

end Interpreter

end ThaiScript
