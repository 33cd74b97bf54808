import ThaiScript.Proofs.Attempts

/-!
# Reports

What an attempt appends to the output, or prints, is the report of its outcome: nothing behind a script
that completes or exits, and otherwise the report line (`attempt_reported`). The line consists of a fixed
beginning and a message. The messages of the catalog are lines, but those of the parser and the texts of
exceptions of no known category come from outside and are passed on as they are: the report is one line
just if they do not break it.
-/

namespace ThaiScript

variable {M V : Type}

/-! ## Lines -/

def breaksLine (c : Char) : Bool := c = '\n' || c = '\r'

def Unbroken (t : Text) : Prop := ∀ c ∈ t, breaksLine c = false

instance (t : Text) : Decidable (Unbroken t) :=
  decidable_of_iff (t.all fun c => !breaksLine c) (by simp [Unbroken])

/-- A text is one line, which is not empty. -/
def IsLine (t : Text) : Prop := ∃ line, line ≠ [] ∧ Unbroken line ∧ t = line ++ "\n"

theorem unbroken_append {s t : Text} : Unbroken (s ++ t) ↔ Unbroken s ∧ Unbroken t := by
  simp only [Unbroken, List.mem_append]
  exact ⟨fun h => ⟨fun c hc => h c (.inl hc), fun c hc => h c (.inr hc)⟩,
    fun ⟨hs, ht⟩ c hc => hc.elim (hs c) (ht c)⟩

/-- A beginning without a break leaves it to the rest. -/
theorem unbroken_append_iff_right {s t : Text} (hs : Unbroken s) : Unbroken (s ++ t) ↔ Unbroken t := by
  rw [unbroken_append]
  exact and_iff_right hs

theorem isLine_append_iff {line : Text} (hne : line ≠ []) : IsLine (line ++ "\n") ↔ Unbroken line := by
  constructor
  · rintro ⟨line', -, hline', heq⟩
    rwa [List.append_cancel_right heq]
  · intro hline
    exact ⟨line, hne, hline, rfl⟩

/-- The characters of a literal are looked at without its encoding. -/
theorem unbroken_ofList {l : List Char} (h : Unbroken l) : Unbroken (String.ofList l).toList := by
  rwa [String.toList_ofList]

/-! ## Messages -/

theorem TranslationError.unbroken_display (e : TranslationError) :
    Unbroken e.display ↔ Unbroken e.message := by
  cases e with
  | malformed m => exact unbroken_append_iff_right (by decide)
  | noParser m => exact unbroken_append_iff_right (by decide)

theorem TranslationError.display_ne_nil (e : TranslationError) : e.display ≠ [] := by
  cases e <;> exact List.cons_ne_nil _ _

theorem RuntimeFailure.unbroken_display (f : RuntimeFailure) :
    Unbroken f.display ↔ Unbroken f.message :=
  unbroken_append_iff_right (by decide)

theorem RuntimeFailure.display_ne_nil (f : RuntimeFailure) : f.display ≠ [] := List.cons_ne_nil _ _

theorem Catalog.unbroken_of_lookup {l : Language} {key m : Text}
    (h : (messages l).lookup key = some m) : Unbroken m := by
  have hentries : ∀ e ∈ messages l, Unbroken e.2 := by
    cases l
    all_goals
      simp only [messages, thai, english, List.forall_mem_cons]
      refine ⟨?_, ?_, ?_, ?_, ?_, ?_, ?_, ?_, ?_, ?_, ?_, List.forall_mem_nil _⟩
      all_goals exact unbroken_ofList (by decide)
  obtain ⟨before, behind, hmessages, -⟩ := List.lookup_eq_some_iff.mp h
  exact hentries (key, m) (hmessages ▸ List.mem_append_right _ List.mem_cons_self)

theorem Catalog.unbroken_of_find? {l : Language} {key m : Text} (h : find? l key = some m) :
    Unbroken m := by
  unfold find? at h
  cases hown : (messages l).lookup key with
  | some m' =>
    rw [hown] at h
    cases h
    exact unbroken_of_lookup hown
  | none =>
    rw [hown] at h
    have hthai : (messages .thai).lookup key = some m := h
    exact unbroken_of_lookup hthai

theorem ErrorCategory.unbroken_message (c : ErrorCategory) (l : Language) : Unbroken (c.message l) := by
  unfold message
  cases h : Catalog.find? l ("error." ++ c.className) with
  | some m => exact Catalog.unbroken_of_find? h
  | none => cases c <;> decide

/-- Only a text that is passed on can break the line. -/
theorem unbroken_localize {l : Language} {name text : Text} :
    Unbroken (localize l name text) ↔ (ErrorCategory.ofClassName? name = none → Unbroken text) := by
  unfold localize
  cases h : ErrorCategory.ofClassName? name with
  | none => exact ⟨fun htext _ => htext, fun htext => htext rfl⟩
  | some c => exact ⟨fun _ hnone => absurd hnone (Option.some_ne_none c), fun _ => c.unbroken_message l⟩

namespace Outcome

theorem isLine_reportText_translationFailed (e : TranslationError) :
    IsLine (translationFailed e).reportText ↔ Unbroken e.message :=
  (isLine_append_iff e.display_ne_nil).trans e.unbroken_display

theorem isLine_reportText_runtimeFailed {r : Raised V} {l : Language} :
    IsLine (runtimeFailed (r.failure l)).reportText ↔
      (ErrorCategory.ofClassName? r.category = none → Unbroken r.text) :=
  ((isLine_append_iff (RuntimeFailure.display_ne_nil _)).trans
    (RuntimeFailure.unbroken_display _)).trans unbroken_localize

end Outcome

namespace Interpreter

variable {I : Interpreter M V} {o : SessionOptions} {sink : Sink} {source : Text} {w w' : World M}
  {e : Execution}

/-! ## Failures -/

variable (I o sink) in
/-- The exceptions that an attempt to run a text can fail with: those of the preparation, of the run and
of the reading of the buffer. -/
inductive Fails (code : Text) (w : World M) : Raised V → Prop
  | unprepared {r : Raised V} {w' : World M} : I.prepare sink w = .error r w' → Fails code w r
  | raised {b : Option V} {globals : Address} {w₁ : World M} {r : Raised V} :
      I.prepare sink w = .ok (b, globals) w₁ →
      (I.run code globals w₁).1 = .raised r → Fails code w r
  | unread {b : V} {globals : Address} {outcome : Outcome} {w₁ w₂ w₃ : World M} {r : Raised V} :
      I.prepare sink w = .ok (some b, globals) w₁ →
      I.runIn o globals code w₁ = .ok outcome w₂ →
      I.readBuffer b w₂ = .error r w₃ → Fails code w r

theorem eq_raised_of_outcome {l : Language} {ending : Ending V} {f : RuntimeFailure}
    (h : ending.outcome l = .runtimeFailed f) : ∃ r, ending = .raised r ∧ f = r.failure l := by
  cases ending with
  | completed => cases h
  | exited code => cases h
  | raised r =>
    cases h
    exact ⟨r, rfl, rfl⟩

theorem Ends.exists_fails {code text : Text} {f : RuntimeFailure}
    (h : I.Ends o sink code w text (.runtimeFailed f)) :
    ∃ r, I.Fails o sink code w r ∧ f = r.failure o.language := by
  generalize houtcome : Outcome.runtimeFailed f = outcome at h
  cases h with
  | unprepared hprepare =>
    cases houtcome
    exact ⟨_, .unprepared hprepare, rfl⟩
  | uncaptured _ hprepare =>
    obtain ⟨r, hr, hf⟩ := eq_raised_of_outcome houtcome.symm
    exact ⟨r, .raised hprepare hr, hf⟩
  | captured _ hprepare _ _ =>
    obtain ⟨r, hr, hf⟩ := eq_raised_of_outcome houtcome.symm
    exact ⟨r, .raised hprepare hr, hf⟩
  | unread _ hprepare hrun hread =>
    cases houtcome
    exact ⟨_, .unread hprepare hrun hread, rfl⟩

/-! ## Reports -/

/-- A report comes behind a text that is captured, or on the stream of the process. -/
def Appends (report text output : Text) (w w' : World M) : Sink → Prop
  | .capture => output = text ++ report ∧ w' = w
  | .stdout => output = text ∧ w' = w.deliverOut report

theorem exists_appends (h : I.attempt o sink source w = .ok e w') :
    e.translation = Translation.of I.parse source ∧ ∃ text w₁,
      I.runTranslation o sink e.translation w = .ok (text, e.outcome) w₁ ∧
      Appends e.outcome.reportText text e.output w₁ w' sink := by
  unfold attempt at h
  generalize Translation.of I.parse source = t at h ⊢
  obtain ⟨⟨text, outcome⟩, w₁, hrun, h⟩ := bind_eq_ok.mp h
  obtain ⟨output, w₂, hreport, h⟩ := bind_eq_ok.mp h
  obtain ⟨rfl, rfl⟩ := pure_eq_ok.mp h
  refine ⟨rfl, text, w₁, hrun, ?_⟩
  cases sink with
  | stdout =>
    rw [report_stdout] at hreport
    cases hreport
    exact ⟨rfl, rfl⟩
  | capture =>
    rw [report_capture] at hreport
    cases hreport
    exact ⟨rfl, rfl⟩

variable (I o sink) in
/-- What an attempt reports that returns an execution. -/
structure Reported (source : Text) (w : World M) (e : Execution) (w' : World M) : Prop where
  translation_eq : e.translation = Translation.of I.parse source
  appends : ∃ text w₁, I.runTranslation o sink e.translation w = .ok (text, e.outcome) w₁ ∧
    Appends e.outcome.reportText text e.output w₁ w' sink
  completed : e.outcome = .completed → e.outcome.reportText = []
  exited : ∀ status, e.outcome = .exited status → e.outcome.reportText = []
  translationFailed : ∀ x, e.outcome = .translationFailed x →
    TranslationError.ofVerdict? (I.parse (substitute source)) = some x ∧
      e.outcome.reportText = x.display ++ "\n" ∧
      (IsLine e.outcome.reportText ↔ Unbroken x.message)
  runtimeFailed : ∀ f, e.outcome = .runtimeFailed f →
    ∃ r, I.Fails o sink (substitute source) w r ∧ f = r.failure o.language ∧
      e.outcome.reportText = f.display ++ "\n" ∧
      (IsLine e.outcome.reportText ↔
        (ErrorCategory.ofClassName? r.category = none → Unbroken r.text))

/-- An attempt that returns appends the report of its outcome and nothing else. The report of a failure
is one line, unless a break is in the text that it passes on. -/
theorem attempt_reported (h : I.attempt o sink source w = .ok e w') :
    I.Reported o sink source w e w' := by
  have hcontained : I.Contained o sink source w e := by
    have hreturns := I.returns_attempt o sink w source
    rwa [h] at hreturns
  obtain ⟨htranslation, happends⟩ := exists_appends h
  refine ⟨htranslation, happends, fun hoc => ?_, fun status hoc => ?_, fun x hoc => ?_, fun f hoc => ?_⟩
  · rw [hoc]
    rfl
  · rw [hoc]
    rfl
  · have hx : e.translation.error = some x := (hcontained.translationFailed_iff x).mp hoc
    rw [htranslation] at hx
    rw [hoc]
    exact ⟨hx, rfl, Outcome.isLine_reportText_translationFailed x⟩
  · obtain ⟨captured, hends, -⟩ := hcontained.ends
    have hnone : e.translation.error = none := by
      cases herror : e.translation.error with
      | none => rfl
      | some x =>
        rw [(hcontained.translationFailed_iff x).mpr herror] at hoc
        cases hoc
    have hends := hends hnone
    rw [hcontained.code_eq, hoc] at hends
    obtain ⟨r, hfails, rfl⟩ := hends.exists_fails
    rw [hoc]
    exact ⟨r, hfails, rfl, rfl, Outcome.isLine_reportText_runtimeFailed⟩

/-- The message for a division by zero is one line. -/
theorem attempt_reported_quitting :
    ∃ e w', quitting.attempt ⟨.thai, false⟩ .capture [] ⟨(), .empty⟩ = .ok e w' ∧
      quitting.Reported ⟨.thai, false⟩ .capture [] ⟨(), .empty⟩ e w' ∧
      IsLine e.outcome.reportText := by
  refine ⟨_, _, rfl, attempt_reported rfl, ?_⟩
  have hknown : ErrorCategory.ofClassName? "ZeroDivisionError".toList ≠ none := by decide
  exact Outcome.isLine_reportText_runtimeFailed.mpr fun hnone => absurd hnone hknown

/-- An interpreter whose runs fail with a text of two lines. -/
def complaining : Interpreter Unit Unit :=
  { quitting with run := fun _ _ w => (.raised ⟨"RuntimeError", "a\nb", ()⟩, w) }

/-- The text of an exception of no known category can make two lines of the report. -/
theorem not_isLine_report_complaining :
    ¬ ∀ e w', complaining.attempt ⟨.thai, false⟩ .capture [] ⟨(), .empty⟩ = .ok e w' →
      IsLine e.outcome.reportText := by
  intro h
  have hline := h _ _ rfl
  have hunbroken := (isLine_append_iff (RuntimeFailure.display_ne_nil _)).mp hline
  exact absurd ((RuntimeFailure.unbroken_display _).mp hunbroken) (by decide)

end Interpreter

end ThaiScript
