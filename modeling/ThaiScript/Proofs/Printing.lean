import ThaiScript.Proofs.Namespaces
import ThaiScript.Proofs.Streams

/-!
# Printing

What a session relies on when a script prints: the builtins can be imported, buffers can be made,
and a print function writes to the buffer that it is bound to, or else to the output stream. In the
namespace of a run, print and each of its aliases are bound to the same function, which is bound to
the buffer of the run where output is captured.
-/

namespace ThaiScript

variable {E M V : Type}

/-! ## Texts as code points -/

theorem Text.hasSurrogate_points (t : Text) : t.points.hasSurrogate = false := by
  simp [points, Points.hasSurrogate, Points.isSurrogate_toNat]

theorem Text.flatten_map_points (ts : List Text) :
    (ts.map Text.points).flatten = Text.points ts.flatten :=
  List.map_flatten.symm

/-! ## The names of print -/

/-- The names that a namespace has for print. -/
def printNames : List Text :=
  "print".toList :: (aliases.filter fun a => a.builtin = "print".toList).map (·.name)

/-! ## How an interpreter prints -/

/-- What there is to see of an interpreter that prints. -/
structure Printer (M V : Type) where
  /-- The builtins and the standard streams are in place. -/
  intact : M → Prop
  /-- The print function of the builtins. -/
  print : V
  isBuffer : V → Prop
  /-- The print function, bound to a buffer. -/
  bound : V → V
  /-- The world after a print function was called with something to print. -/
  call : V → Points → World M → World M
  /-- What is in a buffer, unless it is closed. -/
  contents : V → M → Option Points
  /-- The names in the dictionary at an address. -/
  namesAt : Address → World M → Dictionary V

namespace Printer

variable (P : Printer M V)

/-- Nothing of a step is to be seen. -/
structure Unseen (w w' : World M) : Prop where
  console_eq : w'.console = w.console
  contents_eq : ∀ b, P.contents b w'.machine = P.contents b w.machine
  intact : P.intact w.machine → P.intact w'.machine

variable {P}

theorem Unseen.trans {w w' w'' : World M} (h : P.Unseen w w') (h' : P.Unseen w' w'') :
    P.Unseen w w'' where
  console_eq := h'.console_eq.trans h.console_eq
  contents_eq b := (h'.contents_eq b).trans (h.contents_eq b)
  intact hw := h'.intact (h.intact hw)

end Printer

/-- How an interpreter prints. -/
structure Printing (I : Interpreter M V) extends Printer M V where
  keeping : I.toNamespaceParts.Keeping
  namesAt_eq : ∀ {w g c}, keeping.Owns w g c → namesAt g w = c
  unseen_of_same : ∀ {w w'}, keeping.Same w w' → toPrinter.Unseen w w'
  unseen_copy : ∀ {a g w w'}, I.copy a w = .ok g w' → toPrinter.Unseen w w'
  /-- The builtins are all there, and they answer for themselves. -/
  exists_builtins : ∀ {w}, intact w.machine → ∃ module w', I.builtins w = .ok module w' ∧
    toPrinter.Unseen w w' ∧ keeping.Plain module ∧
    (keeping.namesIn module w').find? "print" = some print ∧
    ∀ a ∈ aliases, ((keeping.namesIn module w').find? a.builtin).isSome
  exists_newBuffer : ∀ {w}, intact w.machine → ∃ b w', I.newBuffer w = .ok b w' ∧
    isBuffer b ∧ contents b w'.machine = some [] ∧ intact w'.machine ∧ w'.console = w.console
  exists_bindTo : ∀ {w}, intact w.machine → ∃ binder w', I.binder w = .ok binder w' ∧
    toPrinter.Unseen w w' ∧
    ∀ b, ∃ w'', I.bindTo binder print b w' = .ok (bound b) w'' ∧ toPrinter.Unseen w' w''
  contents_call : ∀ {b}, isBuffer b → ∀ p w,
    contents b (call (bound b) p w).machine = (contents b w.machine).map (· ++ p)
  console_call : ∀ {b}, isBuffer b → ∀ p w, (call (bound b) p w).console = w.console
  written_call : ∀ {w}, intact w.machine → ∀ t : Text,
    (call print t.points w).console.out.written = w.console.out.written ++ t
  intact_call_print : ∀ {w}, intact w.machine → ∀ p, intact (call print p w).machine
  intact_call_bound : ∀ {b w}, isBuffer b → intact w.machine → ∀ p,
    intact (call (bound b) p w).machine
  /-- Passing on what waits goes well. -/
  out_flush : ∀ {w}, intact w.machine → (I.flush w).console.out = w.console.out.flush
  contents_flush : ∀ {w}, intact w.machine → ∀ b,
    contents b (I.flush w).machine = contents b w.machine
  readBuffer_of_text : ∀ {b w p}, isBuffer b → contents b w.machine = some p →
    p.hasSurrogate = false → ∃ w', I.readBuffer b w = .ok p.lossy w'
  readBuffer_of_no_text : ∀ {b w}, isBuffer b →
    (∀ p, contents b w.machine = some p → p.hasSurrogate = true) →
    ∃ r w', I.readBuffer b w = .error r w'

namespace Printing

variable {I : Interpreter M V} (P : Printing I)

/-- A part of a run in which print is called, by its names, with what is listed; between the calls
`quiet` relates the worlds. -/
inductive Calls (quiet : World M → World M → Prop) (globals : Dictionary V) :
    List Points → World M → World M → Prop
  | done (w : World M) : Calls quiet globals [] w w
  | between {ps : List Points} {w w' w'' : World M} : quiet w w' →
      Calls quiet globals ps w' w'' → Calls quiet globals ps w w''
  | print {ps : List Points} {p : Points} {name : Text} {f : V} {w w' : World M} :
      name ∈ printNames → globals.find? name = some f →
      Calls quiet globals ps (P.call f p w) w' → Calls quiet globals (p :: ps) w w'

variable {P} in
/-- What is printed by a function that is bound to a buffer is added to that. -/
theorem Calls.contents_eq {quiet : World M → World M → Prop} {globals : Dictionary V} {b : V}
    {ps : List Points} {w w' : World M} (hb : P.isBuffer b)
    (hnames : ∀ name ∈ printNames, globals.find? name = some (P.bound b))
    (hquiet : ∀ w w', quiet w w' → P.contents b w'.machine = P.contents b w.machine)
    (h : P.Calls quiet globals ps w w') :
    P.contents b w'.machine = (P.contents b w.machine).map (· ++ ps.flatten) := by
  induction h with
  | done w => simp
  | between h _ ih => rw [ih, hquiet _ _ h]
  | print hname hf _ ih =>
    obtain rfl := Option.some.inj (hf.symm.trans (hnames _ hname))
    rw [ih, P.contents_call hb, Option.map_map]
    exact congrArg (Option.map · _) (funext fun p => List.append_assoc ..)

/-! ### What a run finds -/

open NamespaceParts.Keeping

/-- Over builtins that are all there, the names of print have the same value: the captured print
function, or else that of the builtins. -/
theorem find?_of_mem_printNames {d c : Dictionary V} {module : V} {x : Answers V}
    (hprint : d.find? "print" = some P.print) (hnames : I.toNamespaceParts.Names d module x c)
    (haliases : ∀ a ∈ aliases, c.find? a.name = aliased d x.print a) :
    ∀ name ∈ printNames, c.find? name = some (x.print.getD P.print) := by
  intro name hname
  rcases List.mem_cons.mp hname with rfl | hname
  · cases hx : x.print with
    | none =>
      exact (hnames.other _ (fun a ha => (name_ne_of_mem_aliases a ha).1.symm) (by decide)
        (by decide) (.inl hx)).trans hprint
    | some v => exact hnames.capturedPrint v hx
  · obtain ⟨a, ha, rfl⟩ := List.mem_map.mp hname
    obtain ⟨ha, hbuiltin⟩ := List.mem_filter.mp ha
    rw [haliases a ha, aliased, if_pos (of_decide_eq_true hbuiltin), hprint]
    cases x.print <;> rfl

variable {w : World M}

/-- The print function is captured by binding it to the buffer, where there is one. -/
theorem exists_captures {d : Dictionary V} (hw : P.intact w.machine)
    (hprint : d.find? "print" = some P.print) (buffer : Option V) :
    ∃ w', Captures I.toNamespaceParts d w buffer (buffer.map P.bound) w' ∧ P.Unseen w w' := by
  cases buffer with
  | none => exact ⟨w, .none, rfl, fun _ => rfl, id⟩
  | some b =>
    obtain ⟨binder, w₁, hbinder, hunseen, hbound⟩ := P.exists_bindTo hw
    obtain ⟨w₂, hbindTo, hunseen'⟩ := hbound b
    exact ⟨w₂, .some hbinder hprint hbindTo, hunseen.trans hunseen'⟩

/-- A namespace can be built in which all names of print have the same value: the print function that
is bound to the buffer, where there is one. -/
theorem exists_build (hw : P.intact w.machine) (buffer : Option V) :
    ∃ g w', I.build buffer w = .ok g w' ∧ P.Unseen w w' ∧
      ∀ name ∈ printNames,
        (P.namesAt g w').find? name = some ((buffer.map P.bound).getD P.print) := by
  obtain ⟨module, w₁, hmodule, hunseen₁, hplain, hprint, hbuiltins⟩ := P.exists_builtins hw
  obtain ⟨g, w₂, hcopy, hkept, hfollows⟩ := P.keeping.follows_build buffer hmodule
  have hunseen₂ := hunseen₁.trans (P.unseen_copy hcopy)
  obtain ⟨w₃, hcaptures, hunseen₃⟩ := P.exists_captures (hunseen₂.intact hw) hprint buffer
  obtain ⟨vs, hvs⟩ :=
    exists_forall₂_eq_some_iff.mpr ((isSome_aliased_iff hcaptures).mpr hbuiltins)
  have hanswers : I.answers module buffer w₂ = .ok ⟨buffer.map P.bound, vs⟩ w₃ :=
    (answers_eq_ok_iff hplain (hkept module) fun a ha => .inl (hbuiltins a ha)).mpr ⟨hcaptures, hvs⟩
  obtain ⟨w₄, c, hbuild, howns, hnames, hsame⟩ :=
    P.keeping.exists_build_of_answers hfollows hanswers
  refine ⟨g, w₄, hbuild, (hunseen₂.trans hunseen₃).trans (P.unseen_of_same hsame), ?_⟩
  rw [P.namesAt_eq howns]
  exact P.find?_of_mem_printNames hprint hnames (find?_alias hnames hvs)

theorem exists_prepare_stdout (hw : P.intact w.machine) :
    ∃ g w', I.prepare .stdout w = .ok (none, g) w' ∧ P.Unseen w w' ∧
      ∀ name ∈ printNames, (P.namesAt g w').find? name = some P.print := by
  obtain ⟨g, w', hbuild, hunseen, hnames⟩ := P.exists_build hw none
  exact ⟨g, w', bind_eq_ok.mpr ⟨_, _, rfl, bind_eq_ok.mpr ⟨_, _, hbuild, rfl⟩⟩, hunseen, hnames⟩

theorem exists_prepare_capture (hw : P.intact w.machine) :
    ∃ b g w', I.prepare .capture w = .ok (some b, g) w' ∧ P.isBuffer b ∧
      P.contents b w'.machine = some [] ∧ P.intact w'.machine ∧ w'.console = w.console ∧
      ∀ name ∈ printNames, (P.namesAt g w').find? name = some (P.bound b) := by
  obtain ⟨b, w₁, hnew, hb, hempty, hw₁, hconsole⟩ := P.exists_newBuffer hw
  obtain ⟨g, w', hbuild, hunseen, hnames⟩ := P.exists_build hw₁ (some b)
  have hbuffer : I.buffer .capture w = .ok (some b) w₁ := bind_eq_ok.mpr ⟨_, _, hnew, rfl⟩
  exact ⟨b, g, w', bind_eq_ok.mpr ⟨_, _, hbuffer, bind_eq_ok.mpr ⟨_, _, hbuild, rfl⟩⟩, hb,
    (hunseen.contents_eq b).trans hempty, hunseen.intact hw₁, hunseen.console_eq.trans hconsole,
    hnames⟩

variable {code : Text} {globals : Address}

theorem contents_worldAfter (h : P.intact (I.run code globals w).2.machine) (b : V) :
    P.contents b (I.worldAfter code globals w).machine =
      P.contents b (I.run code globals w).2.machine :=
  P.contents_flush (w := (I.run code globals w).2.deliverErr _) h b

theorem out_worldAfter (h : P.intact (I.run code globals w).2.machine) :
    (I.worldAfter code globals w).console.out = (I.run code globals w).2.console.out.flush :=
  P.out_flush (w := (I.run code globals w).2.deliverErr _) h

end Printing

namespace Scripted

variable (script : Text → Script Text) (w : World (Memory Text))

/-- The print function among values that are texts. -/
def printItem : Item Text Address := .plain "print"

/-- The world after a print function was called. -/
def afterCall (f : Item Text Address) (p : Points) : World (Memory Text) :=
  (w.call (named script).isPrint p (some f)).2

theorem afterCall_printItem (t : Text) :
    afterCall script w printItem t.points = w.writeTo false t := by
  simp [afterCall, World.call, printItem, named, Text.hasSurrogate_points, Points.lossy_points]

theorem machine_afterCall_printItem (p : Points) :
    (afterCall script w printItem p).machine = w.machine := by
  cases h : p.hasSurrogate with
  | true => simp [afterCall, World.call, printItem, named, h]
  | false =>
    simp [afterCall, World.call, printItem, named, h]
    rfl

/-- A function that is bound to a buffer adds to that, and does nothing once it is closed. -/
theorem afterCall_bound (b : Address) (p : Points) :
    afterCall script w (printItem.bind (.buffer b)) p =
      match w.machine.contents b with
      | some _ => w.changeMachine (·.changeBuffer b fun q => some (q ++ p))
      | none => w := by
  cases h : w.machine.contents b <;>
    simp [afterCall, World.call, printItem, Item.bind, named, h]

/-- What there is to see when scripts print. -/
def printer : Printer (Memory Text) (Item Text Address) where
  intact m := m.builtins = namedStart.machine.builtins
  print := printItem
  isBuffer v := ∃ b, v = .buffer b
  bound := printItem.bind
  call := fun f p w => afterCall script w f p
  contents v m :=
    match v with
    | .buffer b => m.contents b
    | _ => none
  namesAt g w := w.machine.dictionary g

theorem unseen_of_eq {w w' : World (Memory Text)} (hconsole : w'.console = w.console)
    (hbuffers : w'.machine.buffers = w.machine.buffers)
    (hbuiltins : w'.machine.builtins = w.machine.builtins) : (printer script).Unseen w w' where
  console_eq := hconsole
  contents_eq b := by
    cases b with
    | buffer b => exact congrArg (·[b]?.join) hbuffers
    | plain v => rfl
    | bound v b => rfl
  intact := hbuiltins.trans

/-- How an interpreter of scripts prints. -/
def printing : Printing (named script).interpreter where
  toPrinter := printer script
  keeping := (named script).keeping
  namesAt_eq h := h.dictionary
  unseen_of_same h := unseen_of_eq script h.console h.buffers h.builtins
  unseen_copy h := by
    cases h
    exact unseen_of_eq script rfl rfl rfl
  exists_builtins {w} h := ⟨_, w, rfl, unseen_of_eq script rfl rfl rfl, plain _ _,
    (congrArg (Dictionary.find? · _) h).trans rfl, fun a ha => by
      have hnamed : (namedStart.machine.builtins.find? a.builtin).isSome := by
        revert a
        decide
      exact (congrArg (fun d => (Dictionary.find? d a.builtin).isSome) h).trans hnamed⟩
  exists_newBuffer h := ⟨_, _, rfl, ⟨_, rfl⟩, Memory.contents_placeBuffer _, h, rfl⟩
  exists_bindTo {w} _ := ⟨_, w, rfl, unseen_of_eq script rfl rfl rfl, fun b =>
    ⟨w, rfl, unseen_of_eq script rfl rfl rfl⟩⟩
  contents_call := by
    rintro _ ⟨b, rfl⟩ p w
    simp only [printer]
    rw [afterCall_bound]
    cases h : w.machine.contents b with
    | none => simp [h]
    | some q => simp [World.changeMachine, Memory.contents_changeBuffer, h]
  console_call := by
    rintro _ ⟨b, rfl⟩ p w
    simp only [printer]
    rw [afterCall_bound]
    cases w.machine.contents b <;> rfl
  written_call _ t := by
    simp only [printer]
    rw [afterCall_printItem]
    exact Channel.written_write ..
  intact_call_print h p := by
    simp only [printer]
    rwa [machine_afterCall_printItem]
  intact_call_bound := by
    rintro _ w ⟨b, rfl⟩ h p
    simp only [printer]
    rw [afterCall_bound]
    cases w.machine.contents b <;> exact h
  out_flush _ := rfl
  contents_flush _ _ := rfl
  readBuffer_of_text := by
    rintro _ w p ⟨b, rfl⟩ hp hs
    have hread : (named script).read (w.machine.contents b) = .ok p.lossy := by
      simp only [printer] at hp
      simp [read, hp, hs]
    exact ⟨w, congrArg (answer · w) hread⟩
  readBuffer_of_no_text := by
    rintro _ w ⟨b, rfl⟩ h
    obtain ⟨r, hread⟩ : ∃ r, (named script).read (w.machine.contents b) = .error r := by
      cases hp : w.machine.contents b with
      | none => exact ⟨_, rfl⟩
      | some p =>
        simp only [read, h p hp, if_true]
        exact ⟨_, rfl⟩
    exact ⟨_, w, congrArg (answer · w) hread⟩

end Scripted

end ThaiScript
