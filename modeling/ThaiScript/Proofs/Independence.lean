import Mathlib.Tactic.Choose
import ThaiScript.Proofs.Memory
import ThaiScript.Proofs.Steps

/-!
# Runs of one session are independent

Runs share the memory, and the globals of a run start from the entries of the builtins. They are a
copy of them, `Scripted.exists_build`, so that what a script does to its names stays its own. What then
differs between two runs of a text is where the globals and the buffer are kept, and a script cannot
tell: `Script.exists_run`. So each source gives what it gives alone,
`Scripted.executions_independent`.
-/

namespace ThaiScript

variable {B V W : Type}

/-! ## Runs -/

namespace Memory

/-- The builtins are `d`. -/
def Shares (d : Dictionary B) (m : Memory B) : Prop := m.builtins = d.mapValues .plain

/-- A run is under way: the builtins are `d`, its globals are `c`, kept at `g`, and its buffer, which
is kept at `b`, has `p` in it. -/
structure Holds (d : Dictionary B) (c : Dictionary (Item B Unit)) (p : Option Points)
    (g b : Address) (m : Memory B) : Prop where
  builtins : m.Shares d
  globals : m.Owned g (c.mapValues (Item.keptAt b))
  contents : m.contents b = p

variable {d : Dictionary B} {c : Dictionary (Item B Unit)} {p : Option Points} {g b : Address}
  {m : Memory B}

/-- A change of the globals leaves the builtins as they are. -/
theorem Holds.change (h : Holds d c p g b m)
    {f : Dictionary (Item B Address) → Dictionary (Item B Address)} {c' : Dictionary (Item B Unit)}
    (hf : f (c.mapValues (Item.keptAt b)) = c'.mapValues (Item.keptAt b)) :
    Holds d c' p g b (m.change f g) where
  builtins := (h.globals.builtins_change f).trans h.builtins
  globals := hf ▸ h.globals.change f
  contents := (congrArg (·[b]?.join) (h.globals.buffers_change f)).trans h.contents

theorem Holds.set (h : Holds d c p g b m) (name : Text) (v : Item B Unit) :
    Holds d (c.set name v) p g b (m.change (·.set name (v.keptAt b)) g) :=
  h.change (Dictionary.set_mapValues (Item.keptAt b) c name v)

theorem Holds.changeBuffer (h : Holds d c p g b m) (f : Points → Option Points) :
    Holds d c (p.bind f) g b (m.changeBuffer b f) where
  builtins := h.builtins
  globals := ⟨h.globals.ne, h.globals.lt, by cases g <;> exact h.globals.dictionary⟩
  contents := (m.contents_changeBuffer b f).trans (congrArg (Option.bind · f) h.contents)

/-- The builtins have no buffer. -/
theorem Shares.builtins_eq (h : m.Shares d) (b : Address) :
    m.builtins = Dictionary.mapValues (Item.keptAt b) (d.mapValues .plain) := by
  rw [h]
  simp [Dictionary.mapValues, Item.keptAt, Item.map]

/-- The globals of a run start as a copy of the builtins. -/
theorem Shares.holds_place (h : m.Shares d) (b : Address) :
    Holds d (d.mapValues .plain) (m.contents b) m.next b (m.place m.builtins) where
  builtins := h
  globals := h.builtins_eq b ▸ m.owned_place _
  contents := rfl

end Memory

open Memory

/-- The value of a name in a run of which the globals are `c`. -/
def valueIn (d : Dictionary B) (c : Dictionary (Item B Unit)) (scope : Scope) (name : Text) :
    Option (Item B Unit) :=
  match scope with
  | .globals => c.find? name
  | .builtins => (d.find? name).map .plain

section
variable {d : Dictionary B} {c : Dictionary (Item B Unit)} {p : Option Points} {g b : Address}
  {w : World (Memory B)}

theorem Memory.Holds.valueOf? (h : Holds d c p g b w.machine) (scope : Scope) (name : Text) :
    w.valueOf? g scope name = (valueIn d c scope name).map (Item.keptAt b) := by
  cases scope with
  | globals =>
    simp only [World.valueOf?, valueIn, h.globals.dictionary, Dictionary.find?_mapValues]
  | builtins =>
    simp only [World.valueOf?, valueIn, h.builtins.builtins_eq b, Dictionary.find?_mapValues]

theorem Memory.Holds.writeTo (h : Holds d c p g b w.machine) (isError : Bool) (t : Text) :
    Holds d c p g b (w.writeTo isError t).machine := by
  cases isError <;> exact h

/-- What a call is told, and what it leaves in the buffer, do not depend on where that is kept. -/
theorem exists_call (isPrint : B → Bool) (q : Points) (x : Option (Item B Unit))
    (d : Dictionary B) (c : Dictionary (Item B Unit)) (p : Option Points) :
    ∃ r p', ∀ (g b : Address) (w : World (Memory B)), Holds d c p g b w.machine →
      (w.call isPrint q (x.map (Item.keptAt b))).1 = r ∧
      Holds d c p' g b (w.call isPrint q (x.map (Item.keptAt b))).2.machine := by
  match x with
  | none => exact ⟨_, p, fun _ _ _ h => ⟨rfl, h⟩⟩
  | some (.buffer _) => exact ⟨_, p, fun _ _ _ h => ⟨rfl, h⟩⟩
  | some (.plain v) =>
    simp only [Option.map_some, Item.keptAt, Item.map, World.call]
    cases isPrint v with
    | false => exact ⟨_, p, fun _ _ _ h => ⟨rfl, h⟩⟩
    | true =>
      cases q.hasSurrogate with
      | true => exact ⟨_, p, fun _ _ _ h => ⟨rfl, h⟩⟩
      | false => exact ⟨_, p, fun _ _ _ h => ⟨rfl, h⟩⟩
  | some (.bound v _) =>
    simp only [Option.map_some, Item.keptAt, Item.map, World.call]
    cases isPrint v with
    | false => exact ⟨_, p, fun _ _ _ h => ⟨rfl, h⟩⟩
    | true =>
      cases hp : p.isSome with
      | true =>
        refine ⟨none, p.bind fun q' => some (q' ++ q), fun g b w h => ?_⟩
        simp only [h.contents, hp, if_true]
        exact ⟨trivial, h.changeBuffer _⟩
      | false =>
        refine ⟨some .closed, p, fun g b w h => ?_⟩
        simp only [h.contents, hp, if_true, Bool.false_eq_true, if_false]
        exact ⟨trivial, h⟩

theorem exists_closeBuffer (x : Option (Item B Unit)) (d : Dictionary B)
    (c : Dictionary (Item B Unit)) (p : Option Points) :
    ∃ p', ∀ (g b : Address) (w : World (Memory B)), Holds d c p g b w.machine →
      Holds d c p' g b (w.closeBuffer (x.map (Item.keptAt b))).machine := by
  match x with
  | none => exact ⟨p, fun _ _ _ h => h⟩
  | some (.plain _) => exact ⟨p, fun _ _ _ h => h⟩
  | some (.buffer _) => exact ⟨_, fun _ _ _ h => h.changeBuffer _⟩
  | some (.bound _ _) => exact ⟨_, fun _ _ _ h => h.changeBuffer _⟩

/-- How a script ends, what it makes of its globals and what it leaves in its buffer depend on what
its names start from; where they are kept has no part in it. -/
theorem Script.exists_run (isPrint : B → Bool) (d : Dictionary B) (s : Script B)
    (c : Dictionary (Item B Unit)) (p : Option Points) :
    ∃ ending c' p', ∀ (g b : Address) (w : World (Memory B)), Holds d c p g b w.machine →
      (s.run isPrint g w).1 = ending ∧ Holds d c' p' g b (s.run isPrint g w).2.machine := by
  -- what a script is told comes from `d`, `c` and `p`, so the branch that it takes is known before
  -- the addresses are
  induction s generalizing c p with
  | finish ending => exact ⟨_, c, p, fun _ _ _ h => ⟨rfl, h⟩⟩
  | bind name v next ih =>
    obtain ⟨ending, c', p', hrun⟩ := ih (c.set name (.plain v)) p
    exact ⟨ending, c', p', fun g b w h => hrun g b _ (h.set name (.plain v))⟩
  | copy name scope source next ih =>
    cases hx : valueIn d c scope source with
    | none =>
      obtain ⟨ending, c', p', hrun⟩ := ih false c p
      refine ⟨ending, c', p', fun g b w h => ?_⟩
      simp only [run, h.valueOf?, hx, Option.map_none]
      exact hrun g b w h
    | some x =>
      obtain ⟨ending, c', p', hrun⟩ := ih true (c.set name x) p
      refine ⟨ending, c', p', fun g b w h => ?_⟩
      simp only [run, h.valueOf?, hx, Option.map_some]
      exact hrun g b _ (h.set name x)
  | delete name next ih =>
    obtain ⟨ending, c', p', hrun⟩ := ih (valueIn d c .globals name).isSome (c.remove name) p
    refine ⟨ending, c', p', fun g b w h => ?_⟩
    simp only [run, h.valueOf?, Option.isSome_map]
    exact hrun g b _ (h.change (Dictionary.remove_mapValues (Item.keptAt b) c name))
  | look scope name next ih =>
    obtain ⟨ending, c', p', hrun⟩ := ih ((valueIn d c scope name).map Item.view) c p
    refine ⟨ending, c', p', fun g b w h => ?_⟩
    have hview : (w.valueOf? g scope name).map Item.view =
        (valueIn d c scope name).map Item.view := by
      rw [h.valueOf?, Option.map_map]
      exact congrArg (Option.map · _) (funext fun x => x.view_keptAt b)
    simp only [run, hview]
    exact hrun g b w h
  | print scope name q next ih =>
    obtain ⟨r, p₁, hcall⟩ := exists_call isPrint q (valueIn d c scope name) d c p
    obtain ⟨ending, c', p', hrun⟩ := ih r c p₁
    refine ⟨ending, c', p', fun g b w h => ?_⟩
    obtain ⟨hr, hholds⟩ := hcall g b w h
    simp only [run, h.valueOf?, hr]
    exact hrun g b _ hholds
  | close scope name next ih =>
    obtain ⟨p₁, hclose⟩ := exists_closeBuffer (valueIn d c scope name) d c p
    obtain ⟨ending, c', p', hrun⟩ := ih c p₁
    refine ⟨ending, c', p', fun g b w h => ?_⟩
    simp only [run, h.valueOf?]
    exact hrun g b _ (hclose g b w h)
  | write isError t next ih =>
    obtain ⟨ending, c', p', hrun⟩ := ih c p
    exact ⟨ending, c', p', fun g b w h => hrun g b _ (h.writeTo isError t)⟩

end

/-! ## Attempts -/

section
variable {M α β : Type}

/-- From a state with `P`, a step gives `a` and leaves a state with `Q`, whatever the console. -/
def Yields (P : M → Prop) (s : Session M α) (a : α) (Q : M → Prop) : Prop :=
  ∀ w, P w.machine → ∃ w', s w = .ok a w' ∧ Q w'.machine

theorem Yields.bind {P Q R : M → Prop} {s : Session M α} {f : α → Session M β} {a : α} {b : β}
    (hs : Yields P s a Q) (hf : Yields Q (f a) b R) : Yields P (s >>= f) b R := by
  intro w hw
  obtain ⟨w', hs, hw'⟩ := hs w hw
  obtain ⟨w'', hf, hw''⟩ := hf w' hw'
  exact ⟨w'', (bind_of_ok hs).trans hf, hw''⟩

theorem Yields.pure (P : M → Prop) (a : α) : Yields P (Pure.pure a : Session M α) a P :=
  fun w hw => ⟨w, rfl, hw⟩

/-- Steps that keep a property of the state, one after the other. -/
theorem Yields.mapM {P : M → Prop} {f : α → Session M β} {g : α → β}
    (hf : ∀ a, Yields P (f a) (g a) P) (as : List α) : Yields P (as.mapM f) (as.map g) P := by
  induction as with
  | nil => exact .pure P []
  | cons a as ih =>
    rw [List.mapM_cons]
    exact .bind (hf a) (.bind ih (.pure P _))

end

namespace Scripted

variable (h : Scripted B) (o : SessionOptions) (sink : Sink) (P : Memory B → Prop)

theorem yields_failure (r : Raised (Item B Address)) :
    Yields P (h.interpreter.failure o r) (.runtimeFailed (r.failure o.language)) P := by
  unfold Interpreter.failure
  cases o.traceback with
  | false => exact .pure P _
  | true => exact .bind (a := ()) (fun w hw => ⟨_, rfl, hw⟩) (.pure P _)

theorem yields_settle (ending : Ending (Item B Address)) :
    Yields P (h.interpreter.settle o ending) (ending.outcome o.language) P := by
  cases ending with
  | completed => exact .pure P _
  | exited code =>
    refine .bind (a := ()) (fun w hw => ⟨_, rfl, ?_⟩) (.pure P _)
    exact (congrArg P (w.machine_complain code)).mpr hw
  | raised r => exact h.yields_failure o P r

theorem yields_giveUp (r : Raised (Item B Address)) :
    Yields P (h.interpreter.giveUp o r) ([], .runtimeFailed (r.failure o.language)) P :=
  .bind (h.yields_failure o P r) (.pure P _)

theorem yields_report (output : Text) (outcome : Outcome) :
    ∃ t, Yields P (Interpreter.report sink output outcome) t P := by
  cases sink with
  | stdout => exact ⟨output, fun w hw => ⟨_, Interpreter.report_stdout output outcome, hw⟩⟩
  | capture => exact ⟨_, fun w hw => ⟨w, Interpreter.report_capture output outcome, hw⟩⟩

/-! ### The namespace of a run -/

variable {d : Dictionary B} {w : World (Memory B)}

theorem ask_eq (hw : w.machine.Shares d) (b : Address) (module : Item B Address) (name : Text) :
    h.interpreter.ask module name w =
      answer ((h.lookUp (d.mapValues .plain) name).map (Item.keptAt b)) w := by
  change answer (h.lookUp w.machine.builtins name) w = _
  rw [hw.builtins_eq b]
  exact congrArg (answer · w) (h.lookUp_mapValues ..)

/-- What an alias is bound to is known before it is known where the buffer is kept. -/
theorem exists_aliasValue (d : Dictionary B) (print : Option (Item B Unit)) (a : Alias) :
    ∃ x : Except (Raised B) (Item B Unit), ∀ b module w, w.machine.Shares d →
      h.interpreter.aliasValue module (print.map (Item.keptAt b)) a w =
        answer (x.map (Item.keptAt b)) w := by
  cases print with
  | none => exact ⟨_, fun b module w hw => h.ask_eq hw b module _⟩
  | some v =>
    by_cases ha : a.builtin = "print".toList
    · refine ⟨.ok v, fun b module w _ => ?_⟩
      simp only [NamespaceParts.aliasValue, Option.map_some, if_pos ha]
      rfl
    · refine ⟨h.lookUp (d.mapValues .plain) a.builtin, fun b module w hw => ?_⟩
      simp only [NamespaceParts.aliasValue, Option.map_some, if_neg ha]
      exact h.ask_eq hw b module _

theorem exists_captured (d : Dictionary B) (buffer : Option (Item B Unit)) :
    ∃ x : Except (Raised B) (Option (Item B Unit)), ∀ b module w, w.machine.Shares d →
      h.interpreter.captured module (buffer.map (Item.keptAt b)) w =
        answer (x.map (Option.map (Item.keptAt b))) w := by
  cases buffer with
  | none => exact ⟨.ok none, fun b module w _ => rfl⟩
  | some v =>
    cases hbinder : h.noBinding with
    | some r =>
      refine ⟨.error r, fun b module w _ => ?_⟩
      simp only [NamespaceParts.captured, Option.map_some, interpreter, hbinder]
      rfl
    | none =>
      have hok (w : World (Memory B)) :
          h.interpreter.binder w = .ok (.plain h.binder) w := by
        simp only [interpreter, hbinder]
        rfl
      cases hprint : h.lookUp (d.mapValues .plain) "print" with
      | error r =>
        refine ⟨.error r, fun b module w hw => ?_⟩
        have hask := h.ask_eq hw b module "print"
        rw [hprint] at hask
        exact (bind_of_ok (hok w)).trans (bind_of_error hask)
      | ok f =>
        refine ⟨(h.bindItem f v).map some, fun b module w hw => ?_⟩
        have hask := h.ask_eq hw b module "print"
        rw [hprint] at hask
        have hbind : h.interpreter.bindTo (.plain h.binder) (f.keptAt b) (v.keptAt b) =
            answer ((h.bindItem f v).map (Item.keptAt b)) :=
          congrArg answer (h.bindItem_map (fun _ => b) f v)
        simp only [NamespaceParts.captured, Option.map_some, Bind.bind, EStateM.bind, hok, hask,
          answer, Except.map, hbind]
        cases h.bindItem f v <;> rfl

/-- How a build ends over the builtins `d`: with globals that are `c`, kept where it tells, or with an
error. -/
inductive Prepared (d : Dictionary B) (p : Option Points) (b : Address) :
    Except (Raised B) (Dictionary (Item B Unit)) →
      EStateM.Result (Raised (Item B Address)) (World (Memory B)) Address → Prop
  | ok {c : Dictionary (Item B Unit)} {g : Address} {w : World (Memory B)} :
      Holds d c p g b w.machine → Prepared d p b (.ok c) (.ok g w)
  | error (r : Raised B) {w : World (Memory B)} :
      w.machine.Shares d → Prepared d p b (.error r) (.error (r.map .plain) w)

theorem exists_bindAliases (d : Dictionary B) (print : Option (Item B Unit)) (as : List Alias)
    (c : Dictionary (Item B Unit)) (p : Option Points) :
    ∃ x, ∀ g b module w, Holds d c p g b w.machine →
      Prepared d p b x ((do
        h.interpreter.bindAliases module g (print.map (Item.keptAt b)) as
        return g) w) := by
  induction as generalizing c with
  | nil => exact ⟨.ok c, fun g b module w hw => .ok hw⟩
  | cons a as ih =>
    obtain ⟨v, hvalue⟩ := h.exists_aliasValue d print a
    cases v with
    | error r =>
      refine ⟨.error r, fun g b module w hw => ?_⟩
      simp only [NamespaceParts.bindAliases, Bind.bind, EStateM.bind, hvalue b module w hw.builtins]
      exact .error r hw.builtins
    | ok v =>
      obtain ⟨x, hx⟩ := ih (c.set a.name v)
      refine ⟨x, fun g b module w hw => ?_⟩
      simp only [NamespaceParts.bindAliases, Bind.bind, EStateM.bind, hvalue b module w hw.builtins]
      exact hx g b module (w.changeMachine (·.change (·.set a.name (v.keptAt b)) g))
        (hw.set a.name v)

theorem exists_setPrint (d : Dictionary B) (print : Option (Item B Unit))
    (c : Dictionary (Item B Unit)) (p : Option Points) :
    ∃ c', ∀ g b w, Holds d c p g b w.machine → ∃ w',
      h.interpreter.setPrint g (print.map (Item.keptAt b)) w = .ok () w' ∧
      Holds d c' p g b w'.machine := by
  cases print with
  | none => exact ⟨c, fun g b w hw => ⟨w, rfl, hw⟩⟩
  | some v => exact ⟨c.set "print" v, fun g b w hw => ⟨_, rfl, hw.set "print" v⟩⟩

/-- The names that a run starts from, before the builtins are asked for. -/
def unasked (d : Dictionary B) : Dictionary (Item B Unit) :=
  ((d.mapValues .plain).set "__builtins__" (.plain h.builtinsModule)).set "__name__"
    (.plain (h.ofText "__main__"))

/-- A build copies the builtins first, and asks for them then. -/
theorem exists_build_eq (hbuiltins : h.noBuiltins = none) (hw : w.machine.Shares d) (b : Address) :
    ∃ g w', Holds d (h.unasked d) (w.machine.contents b) g b w'.machine ∧
      ∀ buffer, h.interpreter.build buffer w = (do
        let print ← h.interpreter.captured (.plain h.builtinsModule) buffer
        h.interpreter.setPrint g print
        h.interpreter.bindAliases (.plain h.builtinsModule) g print aliases
        return g) w' := by
  refine ⟨_, ((w.changeMachine (·.place w.machine.builtins)).changeMachine
      (·.change (·.set "__builtins__" (.plain h.builtinsModule)) w.machine.next)).changeMachine
      (·.change (·.set "__name__" (.plain (h.ofText "__main__"))) w.machine.next),
    ((hw.holds_place b).set _ (.plain h.builtinsModule)).set _ (.plain (h.ofText "__main__")),
    fun buffer => ?_⟩
  simp only [NamespaceParts.build, Bind.bind, EStateM.bind, interpreter, hbuiltins]
  rfl

/-- The globals of a run are a copy of the builtins in which names are set, or there are none. Which of
the two, and with what values, depends on the builtins alone. -/
theorem exists_build (d : Dictionary B) (buffer : Option (Item B Unit)) (p : Option Points) :
    ∃ x, ∀ b w, w.machine.Shares d → w.machine.contents b = p →
      Prepared d p b x (h.interpreter.build (buffer.map (Item.keptAt b)) w) := by
  cases hbuiltins : h.noBuiltins with
  | some r =>
    refine ⟨.error r, fun b w hw _ => ?_⟩
    simp only [NamespaceParts.build, Bind.bind, EStateM.bind, interpreter, hbuiltins]
    exact .error r hw
  | none =>
    obtain ⟨print, hprint⟩ := h.exists_captured d buffer
    cases print with
    | error r =>
      refine ⟨.error r, fun b w hw hp => ?_⟩
      obtain ⟨g, w', hholds, hbuild⟩ := h.exists_build_eq hbuiltins hw b
      rw [hbuild]
      rw [bind_of_error (hprint b _ _ hholds.builtins)]
      exact .error r hholds.builtins
    | ok print =>
      obtain ⟨c, hset⟩ := h.exists_setPrint d print (h.unasked d) p
      obtain ⟨x, hx⟩ := h.exists_bindAliases d print aliases c p
      refine ⟨x, fun b w hw hp => ?_⟩
      obtain ⟨g, w', hholds, hbuild⟩ := h.exists_build_eq hbuiltins hw b
      obtain ⟨w'', hset, hholds'⟩ := hset g b w' (hp ▸ hholds)
      rw [hbuild, bind_of_ok (hprint b _ _ hholds.builtins), bind_of_ok hset]
      exact hx g b _ w'' hholds'

/-- The buffer of a run, which is kept at `b`. -/
def bufferAt {A : Type} (b : A) : Sink → Option (Item B A)
  | .stdout => none
  | .capture => some (.buffer b)

/-- What is in the buffer of a run before it starts. -/
def unwritten : Sink → Option Points
  | .stdout => none
  | .capture => some []

theorem map_bufferAt (b : Address) (sink : Sink) :
    (bufferAt () sink).map (Item.keptAt (B := B) b) = bufferAt b sink := by
  cases sink <;> rfl

/-- What a run starts from: globals that are `c` and a buffer, or nothing but an error. -/
def StartsFrom (d : Dictionary B) (x : Except (Raised B) (Dictionary (Item B Unit)))
    (w : World (Memory B)) : Prop :=
  match x with
  | .ok c => ∃ b g w', h.interpreter.prepare sink w = .ok (bufferAt b sink, g) w' ∧
      Holds d c (unwritten sink) g b w'.machine
  | .error r => ∃ w', h.interpreter.prepare sink w = .error (r.map .plain) w' ∧
      w'.machine.Shares d

theorem startsFrom_of_prepared {x : Except (Raised B) (Dictionary (Item B Unit))} {b : Address}
    {w₁ : World (Memory B)} (hbuffer : h.interpreter.buffer sink w = .ok (bufferAt b sink) w₁)
    (hx : Prepared d (unwritten sink) b x (h.interpreter.build (bufferAt b sink) w₁)) :
    h.StartsFrom sink d x w := by
  have hprepare : h.interpreter.prepare sink w = _ := bind_of_ok hbuffer
  unfold StartsFrom
  cases hbuild : h.interpreter.build (bufferAt b sink) w₁ with
  | ok g w₂ =>
    rw [hbuild] at hx
    cases hx with
    | ok hholds => exact ⟨b, g, w₂, hprepare.trans (bind_of_ok hbuild), hholds⟩
  | error r w₂ =>
    rw [hbuild] at hx
    cases hx with
    | error r hshares => exact ⟨w₂, hprepare.trans (bind_of_error hbuild), hshares⟩

/-- What a run starts from depends on the builtins alone. -/
theorem exists_startsFrom (d : Dictionary B) :
    ∃ x, ∀ w, w.machine.Shares d → h.StartsFrom sink d x w := by
  obtain ⟨x, hbuild⟩ := h.exists_build d (bufferAt () sink) (unwritten sink)
  simp only [map_bufferAt] at hbuild
  cases sink with
  | stdout =>
    refine ⟨x, fun w hw => ?_⟩
    have hcontents := w.machine.contents_of_length_le (Nat.le_refl _)
    exact h.startsFrom_of_prepared .stdout rfl (hbuild _ w hw hcontents)
  | capture =>
    cases hbuffers : h.noBuffers with
    | some r =>
      refine ⟨.error r, fun w hw => ⟨w, ?_, hw⟩⟩
      have hnew : h.interpreter.newBuffer w = .error (r.map .plain) w := by
        simp only [interpreter, hbuffers]
        rfl
      exact bind_of_error (bind_of_error hnew)
    | none =>
      refine ⟨x, fun w hw => ?_⟩
      have hnew : h.interpreter.newBuffer w = .ok (.buffer w.machine.buffers.length)
          (w.changeMachine (·.placeBuffer)) := by
        simp only [interpreter, hbuffers]
        rfl
      exact h.startsFrom_of_prepared .capture (bind_of_ok hnew)
        (hbuild _ (w.changeMachine (·.placeBuffer)) hw w.machine.contents_placeBuffer)

/-! ### The run and its outcome -/

/-- A run from a state in which its names are `c` and `p` is in the buffer. -/
theorem exists_runIn (code : Text) (d : Dictionary B) (c : Dictionary (Item B Unit))
    (p : Option Points) :
    ∃ outcome p', ∀ g b, Yields (Holds d c p g b) (h.interpreter.runIn o g code) outcome
      fun m => m.Shares d ∧ m.contents b = p' := by
  obtain ⟨ending, c', p', hrun⟩ := (h.script code).exists_run h.isPrint d c p
  refine ⟨ending.outcome o.language, p', fun g b => ?_⟩
  have hmodify : Yields (Holds d c p g b) (modifyGet (h.interpreter.run code g)) ending
      fun m => m.Shares d ∧ m.contents b = p' := by
    intro w hw
    obtain ⟨hending, hholds⟩ := hrun g b w hw
    exact ⟨_, congrArg (EStateM.Result.ok · _) hending, hholds.builtins, hholds.contents⟩
  refine .bind hmodify (.bind (h.yields_settle o _ ending) ?_)
  exact .bind (a := ()) (fun w hw => ⟨_, rfl, hw⟩) (.pure _ _)

theorem exists_collect (outcome : Outcome) (p : Option Points) (d : Dictionary B) :
    ∃ a, ∀ b, Yields (fun m => m.Shares d ∧ m.contents b = p)
      (h.interpreter.collect o (bufferAt b sink) outcome) a (·.Shares d) := by
  cases sink with
  | stdout => exact ⟨([], outcome), fun b w hw => ⟨w, rfl, hw.1⟩⟩
  | capture =>
    have hread {b : Address} {w : World (Memory B)} (hw : w.machine.contents b = p) :
        h.interpreter.readBuffer (.buffer b) w = answer (h.read p) w :=
      congrArg (fun p => answer (h.read p) w) hw
    cases hp : h.read p with
    | ok text =>
      refine ⟨(text, outcome), fun b w hw => ⟨w, ?_, hw.1⟩⟩
      exact Interpreter.collect_of_ok ((hread hw.2).trans (by rw [hp]; rfl))
    | error r =>
      refine ⟨([], .runtimeFailed (r.failure o.language)), fun b w hw => ?_⟩
      rw [bufferAt, Interpreter.collect_of_error ((hread hw.2).trans (by rw [hp]; rfl))]
      exact h.yields_giveUp o (·.Shares d) _ w hw.1

theorem exists_runCode (code : Text) (d : Dictionary B) :
    ∃ a, Yields (·.Shares d) (h.interpreter.runCode o sink code) a (·.Shares d) := by
  obtain ⟨x, hstarts⟩ := h.exists_startsFrom sink d
  cases x with
  | error r =>
    refine ⟨([], .runtimeFailed (r.failure o.language)), fun w hw => ?_⟩
    obtain ⟨w', hprepare, hw'⟩ := hstarts w hw
    rw [Interpreter.runCode_of_error hprepare]
    exact h.yields_giveUp o (·.Shares d) _ w' hw'
  | ok c =>
    obtain ⟨outcome, p, hrun⟩ := h.exists_runIn o code d c (unwritten sink)
    obtain ⟨a, hcollect⟩ := h.exists_collect o sink outcome p d
    refine ⟨a, fun w hw => ?_⟩
    obtain ⟨b, g, w', hprepare, hholds⟩ := hstarts w hw
    rw [Interpreter.runCode_of_ok hprepare]
    exact Yields.bind (hrun g b) (hcollect b) w' hholds

/-- An attempt gives the same execution from every state with the same builtins, and leaves those as
they are. -/
theorem exists_attempt (source : Text) (d : Dictionary B) :
    ∃ e, Yields (·.Shares d) (h.interpreter.attempt o sink source) e (·.Shares d) := by
  have hrun : ∃ a, Yields (·.Shares d)
      (h.interpreter.runTranslation o sink (Translation.of h.interpreter.parse source)) a
      (·.Shares d) := by
    unfold Interpreter.runTranslation
    cases (Translation.of h.interpreter.parse source).error with
    | some e => exact ⟨_, .pure _ _⟩
    | none => exact h.exists_runCode o sink _ d
  obtain ⟨⟨text, outcome⟩, hrun⟩ := hrun
  obtain ⟨output, hreport⟩ := yields_report sink (·.Shares d) text outcome
  exact ⟨_, .bind hrun (.bind hreport (.pure _ _))⟩

/-- Sources that one session executes in turn give the executions that each of them gives by itself,
whatever they do to their names and however they end, and the builtins stay as they are. Each run has
the dictionary that is built for it, or fails because none can be. -/
theorem executions_independent (d : Dictionary B) :
    ∃ alone : Sink → Text → Execution,
      (∀ sink source console, ∃ w,
        h.interpreter.attempt o sink source ⟨start d, console⟩ = .ok (alone sink source) w) ∧
      ∀ (runs : List (Sink × Text)) console, ∃ w,
        h.interpreter.executeAll o runs ⟨start d, console⟩ =
          .ok (runs.map fun r => alone r.1 r.2) w ∧
        w.machine.builtins = (start d).builtins := by
  choose alone halone using fun sink source => h.exists_attempt o sink source d
  refine ⟨alone, fun sink source console => ?_, fun runs console => ?_⟩
  · obtain ⟨w, hw, -⟩ := halone sink source ⟨start d, console⟩ rfl
    exact ⟨w, hw⟩
  · exact Yields.mapM (fun r : Sink × Text => halone r.1 r.2) runs ⟨start d, console⟩ rfl

end Scripted

end ThaiScript
