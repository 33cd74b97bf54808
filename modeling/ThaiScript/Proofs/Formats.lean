import ThaiScript.Proofs.Document
import ThaiScript.Proofs.Replacement
import ThaiScript.Proofs.Stages

/-!
# The formats of a translation

A call that writes a translation writes it as program text or as a document. Both hold the same: what
the document decodes to is the program text and the objection that the other format puts on the error
stream, apart from its colour. Neither depends on the other options, on the environment or on what is
logged, since the log goes to the error stream. `formats_agree` puts this together.
-/

namespace ThaiScript.CommandLine

variable {M V : Type}

/-! ## Colours -/

/-- The text that was made red: the codes at its ends are dropped, and those that begin red anew. -/
def uncoloured (t : Text) : Text :=
  Text.replaceAll (resetCode ++ redCode) resetCode
    ((t.drop redCode.length).take (t.length - redCode.length - resetCode.length))

theorem uncoloured_red (t : Text) : uncoloured (red t) = t := by
  have hbody (u : Text) : ((redCode ++ u ++ resetCode).drop redCode.length).take
      ((redCode ++ u ++ resetCode).length - redCode.length - resetCode.length) = u := by
    have hlength : (redCode ++ u ++ resetCode).length - redCode.length - resetCode.length =
        u.length := by
      simp only [List.length_append]
      omega
    rw [hlength, List.append_assoc, List.drop_left, List.take_left]
  unfold uncoloured red
  rw [hbody]
  exact Text.replaceAll_undo (by decide) redCode t

/-! ## Written translations -/

/-- The replies of the calls that write the translation of a source in a format, and what their logs
write. -/
inductive Writes (f : FrontEnd) (I : Interpreter M V) (start : Language → M) (source : Text)
    (format : EmitFormat) (env : Settings.Environment) : (log : Text) → Reply → Prop
  | call {read : Text → Except FileError Bytes} {args : List Text} {o : Options} {path : Text}
      {s : Settings} {bs : Bytes} : f.request args = .start o → o.script = some path →
      o.emit = true → o.format.getD .python = format → Accepted f o env s → read path = .ok bs →
      decodeScript bs = source →
      Writes f I start source format env
        (logged (f.logLine s.logFilter) 0 (callEvents I.parse path bs)) (f.run I start env read args)

/-- What the error stream shows of an objection behind the log. The front end of the program shows it
as it is, or in red. -/
def Shows (f : FrontEnd) (env : Settings.Environment) (shown : Text) : Option Text → Prop
  | none => shown = []
  | some display => shown = f.paint env display ++ "\n" ∧
      ∀ isTerminal, f.paint = (FrontEnd.standard isTerminal).paint →
        if isColoured isTerminal env then
          f.paint env display = red display ∧ uncoloured (f.paint env display) = display
        else f.paint env display = display

section
variable {f : FrontEnd} {I : Interpreter M V} {start : Language → M} {source : Text}
  {format : EmitFormat} {env : Settings.Environment} {log : Text} {r : Reply}

theorem Writes.eq_text (h : Writes f I start source format env log r) :
    let t := Translation.of I.parse source
    r = ⟨format.text t, log ++ format.objection (f.paint env) t,
      if t.error.isSome then 1 else 0⟩ := by
  cases h with
  | call ho hpath hemit hformat haccepted hread hsource =>
    subst hformat hsource
    rw [run_of_accepted f I start ho hpath haccepted, hread]
    exact answer_of_emit f I start hemit _

theorem shows_objection (f : FrontEnd) (env : Settings.Environment) (t : Translation) :
    Shows f env (EmitFormat.python.objection (f.paint env) t)
      (t.error.map TranslationError.display) := by
  obtain ⟨code, error⟩ := t
  cases error with
  | none => rfl
  | some e =>
    refine ⟨rfl, fun isTerminal hpaint => ?_⟩
    rw [hpaint]
    dsimp only [FrontEnd.standard]
    split
    · exact ⟨rfl, uncoloured_red e.display⟩
    · rfl

/-- The document of a translation decodes to its program text and to the objection that comes with the
program text, behind what is logged. Both formats end with the same status, and no other option, no
environment and no front end changes what is written to the output stream or the status. -/
theorem formats_agree {env' : Settings.Environment} {log' : Text} {python json : Reply}
    (hpython : Writes f I start source .python env log python)
    (hjson : Writes f I start source .json env' log' json) :
    (∃ document error shown, json.stdout = document ++ "\n" ∧ json.stderr = log' ∧
      Json.decode document = some (.object [
        ("code".toList, .string python.stdout), ("error".toList, .ofText? error)]) ∧
      (error = none ↔ I.parse (substitute source) = .accepted) ∧
      python.stderr = log ++ shown ∧ Shows f env shown error) ∧
    python.status = json.status ∧
    ∀ format f₁ f₂ env₁ env₂ log₁ log₂ r₁ r₂, Writes f₁ I start source format env₁ log₁ r₁ →
      Writes f₂ I start source format env₂ log₂ r₂ →
      r₁.stdout = r₂.stdout ∧ r₁.status = r₂.status := by
  have hnone := Translation.error_of_eq_none_iff I.parse source
  have halike {format f₁ f₂ env₁ env₂ log₁ log₂ r₁ r₂}
      (h₁ : Writes f₁ I start source format env₁ log₁ r₁)
      (h₂ : Writes f₂ I start source format env₂ log₂ r₂) :
      r₁.stdout = r₂.stdout ∧ r₁.status = r₂.status := by
    rw [h₁.eq_text, h₂.eq_text]
    exact ⟨rfl, rfl⟩
  rw [hpython.eq_text, hjson.eq_text]
  generalize Translation.of I.parse source = t at hnone
  refine ⟨⟨Json.ofTranslation t, _, _, rfl, List.append_nil log', Json.decode_ofTranslation t, ?_, rfl,
    shows_objection f env t⟩, rfl, fun _ _ _ _ _ _ _ _ _ h₁ h₂ => halike h₁ h₂⟩
  rw [Option.map_eq_none_iff, hnone]

end

/-- An interpreter whose parser objects to every text, in words that hold a quote and the end of a
colour. -/
def objecting : Interpreter Unit Unit :=
  { Interpreter.quitting with parse := fun _ => .rejected "no \"x\x1b[0m" }

/-- The front end of the program, with a log that writes its filter for every event. -/
def noisy : FrontEnd :=
  { FrontEnd.standard false with logLine := fun filter _ _ => filter ++ "\n" }

/-- A program that is rejected, in both formats: the objection is in the document, and behind the log on
the error stream in red. -/
theorem formats_agree_objecting :
    let read : Text → Except FileError Bytes := fun _ => .ok [0x27, 0x22, 0x0a]
    let coloured : Settings.Environment :=
      fun name => if name = forcedColourVariable then some ['1'] else none
    let python := noisy.run objecting (fun _ => ()) coloured read ["--emit".toList, "a.py".toList]
    let json := noisy.run objecting (fun _ => ()) (fun _ => none) read
      ["-v".toList, "--emit".toList, "--format=json".toList, "a.py".toList]
    ∃ document display, json.stdout = document ++ "\n" ∧
      json.stderr = "thai_python=debug\nthai_python=debug\nthai_python=debug\n".toList ∧
      Json.decode document = some (.object [
        ("code".toList, .string python.stdout), ("error".toList, .string display)]) ∧
      python.stderr = "thai_python=warn\nthai_python=warn\nthai_python=warn\n".toList ++
        (red display ++ "\n") ∧
      python.status = json.status := by
  intro read coloured python json
  let o : Options := { Options.none with script := some "a.py".toList, emit := true }
  let events := callEvents objecting.parse "a.py" [0x27, 0x22, 0x0a]
  have hpython : Writes noisy objecting (fun _ => ()) (decodeScript [0x27, 0x22, 0x0a]) .python coloured
      (logged (noisy.logLine Settings.defaultLogFilter) 0 events) python :=
    .call (o := o) (s := .initial) rfl rfl rfl rfl ⟨rfl, rfl⟩ rfl rfl
  have hjson : Writes noisy objecting (fun _ => ()) (decodeScript [0x27, 0x22, 0x0a]) .json
      (fun _ => none) (logged (noisy.logLine Settings.verboseLogFilter) 0 events) json :=
    .call (o := { o with format := some .json, verbose := true })
      (s := { Settings.initial with logFilter := Settings.verboseLogFilter }) rfl rfl rfl rfl ⟨rfl, rfl⟩
      rfl rfl
  have hlogged (line : Text) : logged (fun _ _ => line) 0 events = line ++ (line ++ (line ++ [])) := rfl
  obtain ⟨⟨document, error, shown, hdocument, hstderr', hdecode, hnone, hstderr, hshows⟩, hstatus, -⟩ :=
    formats_agree hpython hjson
  cases error with
  | none => cases hnone.mp rfl
  | some display =>
    obtain ⟨rfl, hcolour⟩ := hshows
    have hred := hcolour false rfl
    rw [if_pos (by decide)] at hred
    refine ⟨document, display, hdocument, hstderr'.trans (hlogged _), hdecode, hstderr.trans ?_, hstatus⟩
    rw [hred.1]
    exact congrArg (· ++ _) (hlogged _)

end ThaiScript.CommandLine
