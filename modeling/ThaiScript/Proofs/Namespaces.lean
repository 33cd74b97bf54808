import ThaiScript.Machine.Interpreter
import ThaiScript.Proofs.Memory
import ThaiScript.Proofs.Steps

/-!
# The names of a run

A namespace is made in a copy of the dictionary of the builtins, in which names are set one after the
other. Between these steps the builtins are asked for, and to be asked can change the state, since a
module may hold a function that answers for the names that it does not have. What a build asks for is
`NamespaceParts.answers`. A build does the same, and beyond that it sets names in its own copy alone,
which nothing else knows of: `NamespaceParts.build_gives_names`. Where the builtins are all there nothing
answers but their dictionary, which stays as it is.
-/

namespace ThaiScript

variable {α β γ σ B E V : Type}

/-! ## Names that are set in turn -/

namespace Dictionary

def setAll (d : Dictionary V) (es : List (Text × V)) : Dictionary V :=
  es.foldl (fun d e => d.set e.1 e.2) d

theorem find?_setAll_of_ne {es : List (Text × V)} {d : Dictionary V} {name : Text}
    (h : ∀ e ∈ es, e.1 ≠ name) : (d.setAll es).find? name = d.find? name := by
  induction es generalizing d with
  | nil => rfl
  | cons e es ih =>
    have hset : (d.set e.1 e.2).find? name = d.find? name := by
      rw [find?_set, if_neg (h e List.mem_cons_self).symm]
    exact (ih fun e he => h e (List.mem_cons_of_mem _ he)).trans hset

theorem find?_setAll_of_mem {es : List (Text × V)} {d : Dictionary V} {e : Text × V}
    (hes : (es.map (·.1)).Nodup) (he : e ∈ es) : (d.setAll es).find? e.1 = some e.2 := by
  induction es generalizing d with
  | nil => cases he
  | cons e' es ih =>
    rw [List.map_cons, List.nodup_cons] at hes
    rcases List.mem_cons.mp he with rfl | he
    · have hne : ∀ e' ∈ es, e'.1 ≠ e.1 :=
        fun e' he' hname => hes.1 (List.mem_map.mpr ⟨e', he', hname⟩)
      exact (find?_setAll_of_ne hne).trans (by rw [find?_set, if_pos rfl])
    · exact ih hes.2 he

end Dictionary

/-- Aliases and their values, as names. -/
def namesOf (as : List Alias) (vs : List V) : List (Text × V) := (as.map (·.name)).zip vs

theorem nodup_aliases : (aliases.map (·.name)).Nodup := by decide

/-- No alias is one of the names that are set before the aliases. -/
theorem name_ne_of_mem_aliases : ∀ a ∈ aliases, a.name ≠ "print".toList ∧
    a.name ≠ "__builtins__".toList ∧ a.name ≠ "__name__".toList := by decide

theorem exists_alias_of_mem_namesOf {as : List Alias} {vs : List V} {e : Text × V}
    (he : e ∈ namesOf as vs) : ∃ a ∈ as, a.name = e.1 :=
  List.mem_map.mp (List.of_mem_zip he).1

theorem forall₂_find?_setAll (d : Dictionary V) {as : List Alias} {vs : List V}
    (has : (as.map (·.name)).Nodup) (hlength : as.length = vs.length) :
    List.Forall₂ (fun a v => (d.setAll (namesOf as vs)).find? a.name = some v) as vs := by
  have hfst : (namesOf as vs).map (·.1) = as.map (·.name) :=
    List.map_fst_zip (Nat.le_of_eq (by rw [List.length_map, hlength]))
  rw [List.forall₂_iff_zip]
  refine ⟨hlength, fun {a v} hav => ?_⟩
  have hmem : (a.name, v) ∈ namesOf as vs := by
    rw [namesOf, List.zip_map_left]
    exact List.mem_map.mpr ⟨(a, v), hav, rfl⟩
  exact Dictionary.find?_setAll_of_mem (hfst ▸ has) hmem

/-! ## What a build asks for -/

/-- What a build is answered. -/
structure Answers (V : Type) where
  /-- The captured print function, where output is captured. -/
  print : Option V
  /-- The values of the aliases, in order. -/
  values : List V

namespace NamespaceParts

variable (p : NamespaceParts σ E V)

/-- What a build asks for behind the copy of the builtins. -/
def answers (module : V) (buffer : Option V) : EStateM E σ (Answers V) := do
  let print ← p.captured module buffer
  let values ← aliases.mapM (p.aliasValue module print)
  return ⟨print, values⟩

/-- The dictionary in which the aliases are bound. -/
def unaliased (d : Dictionary V) (module : V) (print : Option V) : Dictionary V :=
  let globals := (d.set "__builtins__" module).set "__name__" (p.ofText "__main__")
  match print with
  | some v => globals.set "print" v
  | none => globals

/-- The namespace over the builtins `d` that is made of answers. -/
def namespaceOf (d : Dictionary V) (module : V) (x : Answers V) : Dictionary V :=
  (p.unaliased d module x.print).setAll (namesOf aliases x.values)

/-- What names stand for in the namespace `c` over the builtins `d` that is made of answers. -/
structure Names (d : Dictionary V) (module : V) (x : Answers V) (c : Dictionary V) : Prop where
  /-- An alias stands for what was answered for it. -/
  answered : List.Forall₂ (fun a v => c.find? a.name = some v) aliases x.values
  /-- An alias of `print` stands for the captured function, where there is one. -/
  capturedAlias : ∀ v, x.print = some v → ∀ a ∈ aliases, a.builtin = "print".toList →
    c.find? a.name = some v
  capturedPrint : ∀ v, x.print = some v → c.find? "print" = some v
  builtinsModule : c.find? "__builtins__" = some module
  mainName : c.find? "__name__" = some (p.ofText "__main__")
  /-- All other names stand for what they stand for among the builtins, if for anything. -/
  other : ∀ name, (∀ a ∈ aliases, name ≠ a.name) → name ≠ "__builtins__".toList →
    name ≠ "__name__".toList → (x.print = none ∨ name ≠ "print".toList) →
    c.find? name = d.find? name

variable {p} {d : Dictionary V} {module : V} {print : Option V} {s t : σ}

theorem find?_unaliased_print {v : V} :
    (p.unaliased d module (some v)).find? "print" = some v := by
  rw [unaliased, Dictionary.find?_set, if_pos rfl]

theorem find?_unaliased_of_ne {name : Text} (h : print = none ∨ name ≠ "print".toList) :
    (p.unaliased d module print).find? name =
      if name = "__name__".toList then some (p.ofText "__main__")
      else if name = "__builtins__".toList then some module
      else d.find? name := by
  have hbase : ((d.set "__builtins__" module).set "__name__" (p.ofText "__main__")).find? name = _ :=
    (Dictionary.find?_set ..).trans (congrArg (ite _ _) (Dictionary.find?_set ..))
  cases print with
  | none => exact hbase
  | some v => rw [unaliased, Dictionary.find?_set, if_neg (h.resolve_left nofun), hbase]

/-- An alias of print gets the captured function. -/
theorem eq_captured_of_aliasValue {v u : V} {a : Alias} (ha : a.builtin = "print".toList)
    (h : p.aliasValue module (some v) a s = .ok u t) : u = v := by
  simp only [aliasValue, if_pos ha] at h
  exact (pure_eq_ok.mp h).1.symm

theorem names_namespaceOf {x : Answers V}
    (hvalues : (aliases.mapM (p.aliasValue module x.print)) s = .ok x.values t) :
    p.Names d module x (p.namespaceOf d module x) := by
  have hanswers := forall₂_of_mapM_eq_ok hvalues
  have hbound := forall₂_find?_setAll (p.unaliased d module x.print) nodup_aliases
    hanswers.length_eq
  have hkept {name : Text} (hname : ∀ a ∈ aliases, a.name ≠ name) :
      (p.namespaceOf d module x).find? name = (p.unaliased d module x.print).find? name := by
    refine Dictionary.find?_setAll_of_ne fun e he heq => ?_
    obtain ⟨a, ha, hae⟩ := exists_alias_of_mem_namesOf he
    exact hname a ha (hae.trans heq)
  have hset := name_ne_of_mem_aliases
  refine ⟨hbound, ?_, ?_, ?_, ?_, ?_⟩
  · intro v hv a ha hbuiltin
    have hprint : List.Forall₂ (fun a _ => (a.builtin = "print".toList →
        (p.namespaceOf d module x).find? a.name = some v) ∧ True) aliases x.values := by
      refine hanswers.mp (fun a u hu hname => ⟨fun hbuiltin => ?_, trivial⟩) hbound
      obtain ⟨s₁, s₂, hu⟩ := hu
      rw [hv] at hu
      exact hname.trans (congrArg some (eq_captured_of_aliasValue hbuiltin hu))
    exact ((List.forall₂_and_left _ _).mp hprint).1 a ha hbuiltin
  · intro v hv
    rw [hkept fun a ha => (hset a ha).1, hv, find?_unaliased_print]
  · rw [hkept fun a ha => (hset a ha).2.1, find?_unaliased_of_ne (.inr (by decide)),
      if_neg (by decide), if_pos rfl]
  · rw [hkept fun a ha => (hset a ha).2.2, find?_unaliased_of_ne (.inr (by decide)), if_pos rfl]
  · intro name hname hmodule hmain hprint
    rw [hkept fun a ha => (hname a ha).symm, find?_unaliased_of_ne hprint, if_neg hmain,
      if_neg hmodule]

end NamespaceParts

/-! ## Dictionaries that are kept -/

/-- What two states that are the same lead to: the same answer or error, in states that are the same.
In the second state, `t`, no dictionary that is owned is touched. -/
inductive Matches (Same : σ → σ → Prop) (Owns : σ → Address → Dictionary V → Prop) (t : σ) :
    EStateM.Result E σ α → EStateM.Result E σ α → Prop
  | ok (a : α) {s' t' : σ} : Same s' t' → (∀ g c, Owns t g c → Owns t' g c) →
      Matches Same Owns t (.ok a s') (.ok a t')
  | error (e : E) {s' t' : σ} : Same s' t' → Matches Same Owns t (.error e s') (.error e t')

/-- A step in which dictionaries that are owned have no part. -/
def Blind (Same : σ → σ → Prop) (Owns : σ → Address → Dictionary V → Prop) (op : EStateM E σ α) :
    Prop :=
  ∀ s t, Same s t → Matches Same Owns t (op s) (op t)

/-- How the parts of a namespace keep dictionaries. One that was just made is owned: nothing but its
maker knows of it. States are the same that differ in the names of such dictionaries only. -/
structure NamespaceParts.Keeping (p : NamespaceParts σ E V) where
  /-- Where the dictionary of a module is kept. -/
  place : V → Address
  /-- The names in the dictionary of a module. -/
  namesIn : V → σ → Dictionary V
  /-- A dictionary is owned and has these names. -/
  Owns : σ → Address → Dictionary V → Prop
  Same : σ → σ → Prop
  same_refl : ∀ s, Same s s
  same_trans : ∀ {s t u}, Same s t → Same t u → Same s u
  /-- The dictionary of a module is known. -/
  namesIn_same : ∀ {s t}, Same s t → ∀ v, namesIn v t = namesIn v s
  dictionary_eq : ∀ v s, p.dictionary v s = .ok (place v) s
  exists_copy : ∀ v s, ∃ g t, p.copy (place v) s = .ok g t ∧ Owns t g (namesIn v s) ∧
    ∀ u, namesIn u t = namesIn u s
  exists_set : ∀ {s g c}, Owns s g c → ∀ name v, ∃ t, p.set g name v s = .ok () t ∧
    Owns t g (c.set name v) ∧ Same s t
  blind_ask : ∀ module name, Blind Same Owns (p.ask module name)
  blind_binder : Blind Same Owns p.binder
  blind_bindTo : ∀ binder print buffer, Blind Same Owns (p.bindTo binder print buffer)

section
variable {Same : σ → σ → Prop} {Owns : σ → Address → Dictionary V → Prop}

theorem Blind.pure (a : α) : Blind (E := E) Same Owns (Pure.pure a) :=
  fun _ _ h => .ok a h fun _ _ h => h

theorem Matches.mono {x y : EStateM.Result E σ α} {t t' : σ} (h : Matches Same Owns t' x y)
    (howns : ∀ g c, Owns t g c → Owns t' g c) : Matches Same Owns t x y := by
  cases h with
  | ok a hsame hkept => exact .ok a hsame fun g c hc => hkept g c (howns g c hc)
  | error e hsame => exact .error e hsame

/-- Where a step matches another one, what comes behind them decides how the whole is related. -/
theorem Matches.bind {R : EStateM.Result E σ β → EStateM.Result E σ γ → Prop}
    {op op' : EStateM E σ α} {f : α → EStateM E σ β} {f' : α → EStateM E σ γ} {s t : σ}
    (h : Matches Same Owns t (op s) (op' t))
    (herror : ∀ e s' t', Same s' t' → R (.error e s') (.error e t'))
    (hok : ∀ a s' t', Same s' t' → (∀ g c, Owns t g c → Owns t' g c) → R (f a s') (f' a t')) :
    R ((op >>= f) s) ((op' >>= f') t) := by
  simp only [Bind.bind, EStateM.bind]
  generalize op s = x at h
  generalize op' t = y at h
  cases h with
  | ok a hsame howns => exact hok a _ _ hsame howns
  | error e hsame => exact herror e _ _ hsame

theorem Blind.bind {op : EStateM E σ α} {f : α → EStateM E σ β} (hop : Blind Same Owns op)
    (hf : ∀ a, Blind Same Owns (f a)) : Blind Same Owns (op >>= f) := by
  intro s t hst
  refine (hop s t hst).bind (fun e _ _ h => .error e h) fun a s' t' h howns => ?_
  exact (hf a s' t' h).mono howns

end

namespace NamespaceParts.Keeping

variable {p : NamespaceParts σ E V} (k : p.Keeping)

theorem blind_captured (module : V) (buffer : Option V) :
    Blind k.Same k.Owns (p.captured module buffer) := by
  cases buffer with
  | none => exact .pure none
  | some b =>
    refine .bind k.blind_binder fun binder => .bind (k.blind_ask module _) fun print => ?_
    exact .bind (k.blind_bindTo binder print b) fun bound => .pure (some bound)

theorem blind_aliasValue (module : V) (print : Option V) (a : Alias) :
    Blind k.Same k.Owns (p.aliasValue module print a) := by
  unfold aliasValue
  cases print with
  | none => exact k.blind_ask module _
  | some v =>
    dsimp only
    split
    · exact .pure v
    · exact k.blind_ask module _

/-- Steps that do what others do, and beyond that leave an owned dictionary with the names that the
answer makes. -/
inductive Follows (g : Address) (names : α → Dictionary V) (b : β) :
    EStateM.Result E σ α → EStateM.Result E σ β → Prop
  | ok (a : α) {s t : σ} : k.Same s t → k.Owns t g (names a) →
      Follows g names b (.ok a s) (.ok b t)
  | error (e : E) {s t : σ} : k.Same s t → Follows g names b (.error e s) (.error e t)

variable {s t : σ} {g : Address} {c : Dictionary V}

section
variable {op : EStateM E σ α} {op' : EStateM E σ β} {x : EStateM.Result E σ α} {b : β}
  {y : EStateM.Result E σ β}

theorem Follows.map_left {f : α → γ} {names : γ → Dictionary V}
    (h : k.Follows g (fun a => names (f a)) b (op s) y) :
    k.Follows g names b ((do return f (← op)) s) y := by
  simp only [Bind.bind, EStateM.bind]
  generalize op s = x at h
  cases h with
  | ok a hsame howns => exact .ok (f a) hsame howns
  | error e hsame => exact .error e hsame

theorem Follows.map_right {names : α → Dictionary V} (c : γ)
    (h : k.Follows g names b x (op' t)) :
    k.Follows g names c x ((do let _ ← op'; return c) t) := by
  simp only [Bind.bind, EStateM.bind]
  generalize op' t = y at h
  cases h with
  | ok a hsame howns => exact .ok a hsame howns
  | error e hsame => exact .error e hsame

end

/-- Names are set behind the values that are asked for, and no answer hangs on them. -/
theorem follows_bindAliases (module : V) (print : Option V) (as : List Alias) (hst : k.Same s t)
    (ht : k.Owns t g c) :
    k.Follows g (fun vs => c.setAll (namesOf as vs)) ()
      ((as.mapM (p.aliasValue module print)) s) (p.bindAliases module g print as t) := by
  induction as generalizing s t c with
  | nil => exact .ok [] hst ht
  | cons a as ih =>
    rw [List.mapM_cons, bindAliases]
    refine (k.blind_aliasValue module print a s t hst).bind (fun e _ _ h => .error e h)
      fun v s' t' h howns => ?_
    obtain ⟨t'', hset, hc, hsame⟩ := k.exists_set (howns g c ht) a.name v
    rw [bind_of_ok hset]
    exact .map_left k (ih (k.same_trans h hsame) hc)

theorem exists_setPrint (module : V) (d : Dictionary V) (print : Option V)
    (ht : k.Owns t g (p.unaliased d module none)) :
    ∃ u, p.setPrint g print t = .ok () u ∧ k.Owns u g (p.unaliased d module print) ∧
      k.Same t u := by
  cases print with
  | none => exact ⟨t, rfl, ht, k.same_refl t⟩
  | some v => exact k.exists_set ht "print" v

/-- Behind the copy of the builtins a build asks, and sets what it is answered. -/
theorem follows_captured (module : V) (d : Dictionary V) (buffer : Option V) (hst : k.Same s t)
    (ht : k.Owns t g (p.unaliased d module none)) :
    k.Follows g (p.namespaceOf d module) g (p.answers module buffer s)
      ((do
        let print ← p.captured module buffer
        p.setPrint g print
        p.bindAliases module g print aliases
        return g : EStateM E σ Address) t) := by
  refine (k.blind_captured module buffer s t hst).bind (fun e _ _ h => .error e h)
    fun print s' t' h howns => ?_
  obtain ⟨t'', hprint, hc, hsame⟩ := k.exists_setPrint module d print (howns g _ ht)
  have hfollows := k.follows_bindAliases module print aliases (k.same_trans h hsame) hc
  rw [bind_of_ok hprint]
  exact .map_left k (.map_right k g hfollows)

/-- A build sets names in its copy of the builtins, and does nothing else but ask. -/
theorem follows_build (buffer : Option V) {module : V} {s₁ : σ}
    (hmodule : p.builtins s = .ok module s₁) :
    ∃ g s₂, p.copy (k.place module) s₁ = .ok g s₂ ∧
      (∀ v, k.namesIn v s₂ = k.namesIn v s₁) ∧
      k.Follows g (p.namespaceOf (k.namesIn module s₁) module) g
        (p.answers module buffer s₂) (p.build buffer s) := by
  obtain ⟨g, s₂, hcopy, howns, hnames⟩ := k.exists_copy module s₁
  obtain ⟨s₃, hset₃, howns₃, hsame₃⟩ := k.exists_set howns "__builtins__" module
  obtain ⟨s₄, hset₄, howns₄, hsame₄⟩ := k.exists_set howns₃ "__name__" (p.ofText "__main__")
  have hfollows := k.follows_captured module _ buffer (k.same_trans hsame₃ hsame₄) howns₄
  refine ⟨g, s₂, hcopy, hnames, ?_⟩
  simp only [build, Bind.bind, EStateM.bind, hmodule, k.dictionary_eq, hcopy, hset₃, hset₄]
  exact hfollows

section
variable {buffer : Option V} {module : V} {d : Dictionary V}
  (hfollows : k.Follows g (p.namespaceOf d module) g (p.answers module buffer s)
    (p.build buffer t))
include hfollows

theorem exists_build_of_answers {x : Answers V} {s' : σ}
    (hx : p.answers module buffer s = .ok x s') :
    ∃ t' c, p.build buffer t = .ok g t' ∧ k.Owns t' g c ∧ p.Names d module x c ∧ k.Same s' t' := by
  obtain ⟨print, s₁, -, hrest⟩ := bind_eq_ok.mp hx
  obtain ⟨vs, s₂, hvalues, hpure⟩ := bind_eq_ok.mp hrest
  obtain ⟨rfl, rfl⟩ := pure_eq_ok.mp hpure
  rw [hx] at hfollows
  generalize p.build buffer t = y at hfollows
  cases hfollows with
  | ok _ h howns => exact ⟨_, _, rfl, howns, names_namespaceOf hvalues, h⟩

theorem exists_build_of_error {e : E} {s' : σ} (he : p.answers module buffer s = .error e s') :
    ∃ t', p.build buffer t = .error e t' ∧ k.Same s' t' := by
  rw [he] at hfollows
  generalize p.build buffer t = y at hfollows
  cases hfollows with
  | error _ h => exact ⟨_, rfl, h⟩

end

/-! ## Builtins that answer for themselves -/

/-- A module gives what its dictionary has, and fails if this has neither the name nor a function that
answers for it. The names of the module have no part in binding functions. -/
structure Plain (module : V) : Prop where
  ask_of_some : ∀ {s name v}, (k.namesIn module s).find? name = some v →
    p.ask module name s = .ok v s
  ask_of_none : ∀ {s name}, (k.namesIn module s).find? name = none →
    (k.namesIn module s).find? "__getattr__" = none →
    ∃ e t, p.ask module name s = .error e t ∧ k.namesIn module t = k.namesIn module s
  namesIn_binder : ∀ s, k.namesIn module (left (p.binder s)) = k.namesIn module s
  namesIn_bindTo : ∀ binder print buffer s,
    k.namesIn module (left (p.bindTo binder print buffer s)) = k.namesIn module s

/-- No function of the builtins `d` is asked for a name: they have it, or they have no such function. -/
def Settled (d : Dictionary V) (name : Text) : Prop :=
  (d.find? name).isSome ∨ d.find? "__getattr__" = none

instance (d : Dictionary V) (name : Text) : Decidable (Settled d name) :=
  inferInstanceAs (Decidable (_ ∨ _ = none))

/-- What an alias stands for over the builtins `d`: the captured print function for `print`, else its
builtin. -/
def aliased (d : Dictionary V) (print : Option V) (a : Alias) : Option V :=
  if a.builtin = "print".toList then print <|> d.find? "print" else d.find? a.builtin

/-- The print function that is captured, if output is: that of the builtins `d`, bound to the buffer. -/
inductive Captures (p : NamespaceParts σ E V) (d : Dictionary V) (s : σ) :
    Option V → Option V → σ → Prop
  | none : Captures p d s none none s
  | some {binder print buffer v : V} {s₁ s₂ : σ} : p.binder s = .ok binder s₁ →
      d.find? "print" = some print → p.bindTo binder print buffer s₁ = .ok v s₂ →
      Captures p d s (some buffer) (some v) s₂

variable (module : V) (d : Dictionary V)

/-- A step after which the names of a module are `d`, if they were before. -/
def Keeps (op : EStateM E σ α) : Prop :=
  ∀ s, k.namesIn module s = d → k.namesIn module (left (op s)) = d

variable {k module d}

theorem Keeps.pure (a : α) : k.Keeps module d (Pure.pure a) := fun _ hs => hs

theorem Keeps.bind {op : EStateM E σ α} {f : α → EStateM E σ β} (hop : k.Keeps module d op)
    (hf : ∀ a, k.Keeps module d (f a)) : k.Keeps module d (op >>= f) := by
  intro s hs
  have hleft := hop s hs
  cases hx : op s with
  | error e t =>
    rw [hx] at hleft
    rw [bind_of_error hx]
    exact hleft
  | ok a t =>
    rw [hx] at hleft
    rw [bind_of_ok hx]
    exact hf a t hleft

theorem Keeps.mapM {f : α → EStateM E σ β} {as : List α} (hf : ∀ a ∈ as, k.Keeps module d (f a)) :
    k.Keeps module d (as.mapM f) := by
  induction as with
  | nil => exact .pure []
  | cons a as ih =>
    rw [List.mapM_cons]
    refine .bind (hf a List.mem_cons_self) fun b => .bind (ih fun a ha => ?_) fun bs => .pure _
    exact hf a (List.mem_cons_of_mem _ ha)

variable (hplain : k.Plain module)
include hplain

theorem keeps_ask {name : Text} (hname : Settled d name) : k.Keeps module d (p.ask module name) := by
  rintro s rfl
  cases hfind : (k.namesIn module s).find? name with
  | some v =>
    rw [hplain.ask_of_some hfind]
    rfl
  | none =>
    obtain ⟨e, t, hask, hkept⟩ := hplain.ask_of_none hfind (hname.resolve_left (by simp [hfind]))
    rw [hask]
    exact hkept

theorem ask_eq_ok_iff {name : Text} {v : V} (hs : k.namesIn module s = d) (hname : Settled d name) :
    p.ask module name s = .ok v t ↔ d.find? name = some v ∧ s = t := by
  subst hs
  cases hfind : (k.namesIn module s).find? name with
  | some u => simp [hplain.ask_of_some hfind]
  | none =>
    obtain ⟨e, t', hask, -⟩ := hplain.ask_of_none hfind (hname.resolve_left (by simp [hfind]))
    simp [hask]

theorem keeps_captured (hprint : Settled d "print") (buffer : Option V) :
    k.Keeps module d (p.captured module buffer) := by
  cases buffer with
  | none => exact .pure none
  | some b =>
    refine .bind (fun s hs => (hplain.namesIn_binder s).trans hs) fun binder => ?_
    refine .bind (keeps_ask hplain hprint) fun print => ?_
    exact .bind (fun s hs => (hplain.namesIn_bindTo binder print b s).trans hs) fun v => .pure _

theorem captured_eq_ok_iff (hs : k.namesIn module s = d) (hprint : Settled d "print")
    {buffer print : Option V} :
    p.captured module buffer s = .ok print t ↔ Captures p d s buffer print t := by
  cases buffer with
  | none =>
    refine ⟨fun h => ?_, fun h => ?_⟩
    · cases h
      exact .none
    · cases h
      rfl
  | some b =>
    have hbinder {binder : V} {s₁ : σ} (h : p.binder s = .ok binder s₁) :
        k.namesIn module s₁ = d := by
      have hkept := hplain.namesIn_binder s
      rw [h] at hkept
      exact hkept.trans hs
    simp only [NamespaceParts.captured, bind_eq_ok]
    constructor
    · rintro ⟨binder, s₁, h₁, f, s₂, h₂, v, s₃, h₃, h⟩
      obtain ⟨hf, rfl⟩ := (ask_eq_ok_iff hplain (hbinder h₁) hprint).mp h₂
      obtain ⟨rfl, rfl⟩ := pure_eq_ok.mp h
      exact .some h₁ hf h₃
    · intro h
      cases h with
      | some h₁ hf h₃ =>
        have hask := (ask_eq_ok_iff hplain (hbinder h₁) hprint).mpr ⟨hf, rfl⟩
        exact ⟨_, _, h₁, _, _, hask, _, _, h₃, rfl⟩

theorem keeps_aliasValue (print : Option V) {a : Alias} (ha : Settled d a.builtin) :
    k.Keeps module d (p.aliasValue module print a) := by
  unfold aliasValue
  cases print with
  | none => exact keeps_ask hplain ha
  | some v =>
    dsimp only
    split
    · exact .pure v
    · exact keeps_ask hplain ha

theorem aliasValue_eq_ok_iff {print : Option V} {a : Alias} {v : V} (hs : k.namesIn module s = d)
    (ha : Settled d a.builtin) :
    p.aliasValue module print a s = .ok v t ↔ aliased d print a = some v ∧ s = t := by
  unfold aliasValue aliased
  cases print with
  | none =>
    rw [ask_eq_ok_iff hplain hs ha]
    split
    · next hprint => rw [hprint]; rfl
    · rfl
  | some u =>
    dsimp only
    split
    · rw [pure_eq_ok]
      simp
    · exact ask_eq_ok_iff hplain hs ha

theorem mapM_aliasValue_eq_ok_iff {print : Option V} {as : List Alias} {vs : List V}
    (hs : k.namesIn module s = d) (has : ∀ a ∈ as, Settled d a.builtin) :
    (as.mapM (p.aliasValue module print)) s = .ok vs t ↔
      List.Forall₂ (fun a v => aliased d print a = some v) as vs ∧ s = t := by
  induction as generalizing vs t with
  | nil =>
    rw [List.forall₂_nil_left_iff]
    exact pure_eq_ok.trans (and_congr_left fun _ => eq_comm)
  | cons a as ih =>
    have hvalue {v : V} {t : σ} :
        p.aliasValue module print a s = .ok v t ↔ aliased d print a = some v ∧ s = t :=
      aliasValue_eq_ok_iff hplain hs (has a List.mem_cons_self)
    have ih {us : List V} {t : σ} : (as.mapM (p.aliasValue module print)) s = .ok us t ↔
        List.Forall₂ (fun a v => aliased d print a = some v) as us ∧ s = t :=
      ih fun a ha => has a (List.mem_cons_of_mem _ ha)
    rw [List.mapM_cons]
    simp only [bind_eq_ok, hvalue]
    constructor
    · rintro ⟨v, s₁, ⟨hv, rfl⟩, us, s₂, hmapM, h⟩
      obtain ⟨hus, rfl⟩ := ih.mp hmapM
      obtain ⟨rfl, rfl⟩ := pure_eq_ok.mp h
      exact ⟨.cons hv hus, rfl⟩
    · rintro ⟨h, rfl⟩
      cases h with
      | cons hv hus => exact ⟨_, s, ⟨hv, rfl⟩, _, s, ih.mpr ⟨hus, rfl⟩, rfl⟩

omit hplain in
/-- Where a print function is captured, that of the builtins is there. -/
theorem isSome_aliased_iff {buffer print : Option V} (h : Captures p d s buffer print t) :
    (∀ a ∈ aliases, (aliased d print a).isSome) ↔ ∀ a ∈ aliases, (d.find? a.builtin).isSome := by
  refine forall₂_congr fun a _ => ?_
  unfold aliased
  split
  · next ha =>
    rw [ha]
    cases h with
    | none => rfl
    | some _ hprint _ =>
      rw [hprint]
      rfl
  · rfl

omit hplain in
theorem exists_forall₂_eq_some_iff {f : α → Option V} {as : List α} :
    (∃ vs, List.Forall₂ (fun a v => f a = some v) as vs) ↔ ∀ a ∈ as, (f a).isSome := by
  induction as with
  | nil => exact ⟨fun _ => nofun, fun _ => ⟨[], .nil⟩⟩
  | cons a as ih =>
    rw [List.forall_mem_cons, ← ih]
    constructor
    · rintro ⟨_, h⟩
      cases h with
      | cons hv hvs => exact ⟨by rw [hv]; rfl, _, hvs⟩
    · rintro ⟨ha, vs, hvs⟩
      obtain ⟨v, hv⟩ := Option.isSome_iff_exists.mp ha
      exact ⟨v :: vs, .cons hv hvs⟩

omit hplain in
/-- In a namespace whose aliases are answered so, each stands for what it should stand for. -/
theorem find?_alias {x : Answers V} {c : Dictionary V} (hnames : p.Names d module x c)
    (hvalues : List.Forall₂ (fun a v => aliased d x.print a = some v) aliases x.values) :
    ∀ a ∈ aliases, c.find? a.name = aliased d x.print a := by
  have hboth : List.Forall₂ (fun a _ => c.find? a.name = aliased d x.print a ∧ True) aliases
      x.values :=
    hnames.answered.mp (fun _ _ ha hv => ⟨ha.trans hv.symm, trivial⟩) hvalues
  exact ((List.forall₂_and_left _ _).mp hboth).1

omit hplain in
theorem settled_print (hbuiltins : ∀ a ∈ aliases, Settled d a.builtin) : Settled d "print" :=
  hbuiltins ⟨"พิมพ์", "print"⟩ List.mem_cons_self

section
variable {buffer : Option V} (hs : k.namesIn module s = d)
  (hbuiltins : ∀ a ∈ aliases, Settled d a.builtin)
include hs hbuiltins

theorem namesIn_answers : k.namesIn module (left (p.answers module buffer s)) = d := by
  refine Keeps.bind (keeps_captured hplain (settled_print hbuiltins) buffer) (fun print => ?_) s hs
  exact .bind (.mapM fun a ha => keeps_aliasValue hplain print (hbuiltins a ha)) fun vs => .pure _

theorem answers_eq_ok_iff {x : Answers V} :
    p.answers module buffer s = .ok x t ↔ Captures p d s buffer x.print t ∧
      List.Forall₂ (fun a v => aliased d x.print a = some v) aliases x.values := by
  have hprint := settled_print hbuiltins
  have hkept {print : Option V} {s₁ : σ} (h : p.captured module buffer s = .ok print s₁) :
      k.namesIn module s₁ = d := by
    have hleft := keeps_captured hplain hprint buffer s hs
    rwa [h] at hleft
  simp only [answers, bind_eq_ok]
  constructor
  · rintro ⟨print, s₁, hcaptured, vs, s₂, hvalues, h⟩
    obtain ⟨hmap, rfl⟩ :=
      (mapM_aliasValue_eq_ok_iff hplain (hkept hcaptured) hbuiltins).mp hvalues
    obtain ⟨rfl, rfl⟩ := pure_eq_ok.mp h
    exact ⟨(captured_eq_ok_iff hplain hs hprint).mp hcaptured, hmap⟩
  · rintro ⟨hcaptures, hvalues⟩
    have hcaptured := (captured_eq_ok_iff hplain hs hprint).mpr hcaptures
    have hmapM := (mapM_aliasValue_eq_ok_iff hplain (hkept hcaptured) hbuiltins).mpr ⟨hvalues, rfl⟩
    exact ⟨_, _, hcaptured, _, _, hmapM, rfl⟩

theorem exists_answers_iff :
    (∃ x t, p.answers module buffer s = .ok x t) ↔ (∀ a ∈ aliases, (d.find? a.builtin).isSome) ∧
      ∃ print t, Captures p d s buffer print t := by
  simp only [answers_eq_ok_iff hplain hs hbuiltins]
  constructor
  · rintro ⟨x, t, hcaptures, hvalues⟩
    have hsome := exists_forall₂_eq_some_iff.mp ⟨x.values, hvalues⟩
    exact ⟨(isSome_aliased_iff hcaptures).mp hsome, x.print, t, hcaptures⟩
  · rintro ⟨hsome, print, t, hcaptures⟩
    obtain ⟨vs, hvs⟩ := exists_forall₂_eq_some_iff.mpr ((isSome_aliased_iff hcaptures).mpr hsome)
    exact ⟨⟨print, vs⟩, t, hcaptures, hvs⟩

end

end NamespaceParts.Keeping

/-! ## What a namespace is -/

open NamespaceParts.Keeping in
/-- A namespace is built in a copy of the builtins. It has the names that it should have, with the
values that were answered, and it is built just when all that is asked for is answered. A build does
nothing but ask, as far as anything else can tell. Where no function of the builtins is asked for names,
these are the builtins themselves, they must all be there and the print function must be bound, and the
builtins stay as they were. -/
theorem NamespaceParts.build_gives_names {p : NamespaceParts σ E V} (k : p.Keeping)
    (buffer : Option V) (s : σ) :
    (∀ e s₁, p.builtins s = .error e s₁ → p.build buffer s = .error e s₁) ∧
    ∀ module s₁, p.builtins s = .ok module s₁ → ∃ g s₂, p.copy (k.place module) s₁ = .ok g s₂ ∧
      (∀ v, k.namesIn v s₂ = k.namesIn v s₁) ∧
      (∀ x t, p.answers module buffer s₂ = .ok x t → ∃ u c, p.build buffer s = .ok g u ∧
        k.Owns u g c ∧ p.Names (k.namesIn module s₁) module x c ∧
        k.Same t u ∧ ∀ v, k.namesIn v u = k.namesIn v t) ∧
      (∀ e t, p.answers module buffer s₂ = .error e t → ∃ u, p.build buffer s = .error e u ∧
        k.Same t u ∧ ∀ v, k.namesIn v u = k.namesIn v t) ∧
      ∀ d, k.namesIn module s₁ = d → k.Plain module → (∀ a ∈ aliases, Settled d a.builtin) →
        ((∃ g u, p.build buffer s = .ok g u) ↔ (∀ a ∈ aliases, (d.find? a.builtin).isSome) ∧
          ∃ print t, Captures p d s₂ buffer print t) ∧
        (∀ g u, p.build buffer s = .ok g u → ∃ c x t, k.Owns u g c ∧ p.Names d module x c ∧
          Captures p d s₂ buffer x.print t ∧
          ∀ a ∈ aliases, c.find? a.name = aliased d x.print a) ∧
        k.namesIn module (left (p.build buffer s)) = d := by
  refine ⟨fun e s₁ => bind_of_error, fun module s₁ hmodule => ?_⟩
  obtain ⟨g, s₂, hcopy, hnames, hfollows⟩ := k.follows_build buffer hmodule
  refine ⟨g, s₂, hcopy, hnames, fun x t hx => ?_, fun e t he => ?_, ?_⟩
  · obtain ⟨u, c, hbuild, howns, hc, hsame⟩ := k.exists_build_of_answers hfollows hx
    exact ⟨u, c, hbuild, howns, hc, hsame, k.namesIn_same hsame⟩
  · obtain ⟨u, hbuild, hsame⟩ := k.exists_build_of_error hfollows he
    exact ⟨u, hbuild, hsame, k.namesIn_same hsame⟩
  · rintro d rfl hplain hbuiltins
    have hexists : (∃ x t, p.answers module buffer s₂ = .ok x t) ↔ _ :=
      exists_answers_iff hplain (hnames module) hbuiltins
    have hkept : k.namesIn module (left (p.answers module buffer s₂)) = _ :=
      namesIn_answers hplain (hnames module) hbuiltins
    cases hx : p.answers module buffer s₂ with
    | ok x t =>
      obtain ⟨u, c, hbuild, howns, hc, hsame⟩ := k.exists_build_of_answers hfollows hx
      obtain ⟨hcaptures, hvalues⟩ := (answers_eq_ok_iff hplain (hnames module) hbuiltins).mp hx
      rw [hx] at hkept
      refine ⟨⟨fun _ => hexists.mp ⟨x, t, hx⟩, fun _ => ⟨g, u, hbuild⟩⟩, fun g' u' hbuild' => ?_,
        by rw [hbuild]; exact (k.namesIn_same hsame module).trans hkept⟩
      cases hbuild.symm.trans hbuild'
      exact ⟨c, x, t, howns, hc, hcaptures, find?_alias hc hvalues⟩
    | error e t =>
      obtain ⟨u, hbuild, hsame⟩ := k.exists_build_of_error hfollows hx
      rw [hx] at hkept hexists
      rw [hbuild]
      refine ⟨by simpa using hexists, fun g' u' hbuild' => ?_,
        (k.namesIn_same hsame module).trans hkept⟩
      cases hbuild'

/-! ## Interpreters of scripts -/

namespace Scripted

/-- Worlds with the same builtins, buffers and console. -/
structure Alike (w w' : World (Memory B)) : Prop where
  builtins : w'.machine.builtins = w.machine.builtins
  buffers : w'.machine.buffers = w.machine.buffers
  console : w'.console = w.console

theorem blind_answer (x : Except (Raised B) α) :
    Blind Alike (fun w => w.machine.Owned) (answer x) := by
  intro w w' hw
  cases x with
  | ok a => exact .ok a hw fun _ _ h => h
  | error r => exact .error _ hw

variable (h : Scripted B)

/-- How an interpreter of scripts keeps dictionaries. -/
def keeping : h.interpreter.toNamespaceParts.Keeping where
  place _ := 0
  namesIn _ w := w.machine.builtins
  Owns w := w.machine.Owned
  Same := Alike
  same_refl _ := ⟨rfl, rfl, rfl⟩
  same_trans h₁ h₂ := ⟨h₂.builtins.trans h₁.builtins, h₂.buffers.trans h₁.buffers,
    h₂.console.trans h₁.console⟩
  namesIn_same h _ := h.builtins
  dictionary_eq _ _ := rfl
  exists_copy _ w := ⟨_, _, rfl, w.machine.owned_place _, fun _ => rfl⟩
  exists_set hc name v := ⟨_, rfl, hc.change (·.set name v),
    hc.builtins_change _, hc.buffers_change _, rfl⟩
  blind_ask _ name w w' hw := by
    have hanswer := blind_answer (h.lookUp w.machine.builtins name) w w' hw
    rw [← hw.builtins] at hanswer
    simpa only [interpreter, hw.builtins] using hanswer
  blind_binder := blind_answer _
  blind_bindTo _ _ _ := blind_answer _

theorem plain (module : Item B Address) : h.keeping.Plain module where
  ask_of_some {w name v} hv := by
    have hlookUp : h.lookUp w.machine.builtins name = .ok v := by
      simp only [lookUp, show w.machine.builtins.find? name = some v from hv]
    exact congrArg (answer · w) hlookUp
  ask_of_none {w name} hname hhook := by
    have hlookUp : h.lookUp w.machine.builtins name = .error (h.missing name) := by
      simp only [lookUp, show w.machine.builtins.find? name = none from hname,
        show w.machine.builtins.find? "__getattr__" = none from hhook]
    exact ⟨_, w, congrArg (answer · w) hlookUp, rfl⟩
  namesIn_binder w := by
    change (left (answer _ w)).machine.builtins = _
    cases granted h.noBinding (Item.plain (A := Address) h.binder) <;> rfl
  namesIn_bindTo _ print buffer w := by
    change (left (answer _ w)).machine.builtins = _
    cases h.bindItem print buffer <;> rfl

/-- A world in which a builtin is not there, and a function of the builtins answers for it. -/
def hookedStart : World (Memory Text) :=
  ⟨.start (("__getattr__".toList, "hook".toList) ::
    (aliases.filter fun a => a.builtin ≠ "set".toList).map fun a => (a.builtin, a.builtin)), .empty⟩

end Scripted

theorem NamespaceParts.build_gives_names_captured :
    let p := (Scripted.named fun _ => .finish .completed).interpreter.toNamespaceParts
    (∃ g w c, p.build (some (.buffer 0)) Scripted.namedStart = .ok g w ∧ w.machine.Owned g c ∧
      c.find? "พิมพ์" = some (.bound "print".toList 0) ∧
      c.find? "print" = some (.bound "print".toList 0) ∧
      c.find? "เซต" = some (.plain "set".toList) ∧
      c.find? "set" = some (.plain "set".toList) ∧
      w.machine.builtins = Scripted.namedStart.machine.builtins) ∧
    ∃ g w c, p.build none Scripted.hookedStart = .ok g w ∧ w.machine.Owned g c ∧
      c.find? "เซต" = some (.plain "set".toList) ∧ c.find? "set" = none := by
  intro p
  let k := (Scripted.named fun _ => .finish .completed).keeping
  constructor
  · obtain ⟨g, w₂, hcopy, -, hbuilt, -, hsettled⟩ :=
      (build_gives_names k (some (.buffer 0)) Scripted.namedStart).2 _ _ rfl
    obtain ⟨-, -, hkept⟩ := hsettled _ rfl (Scripted.plain _ _) (by decide)
    cases hcopy
    obtain ⟨w, c, hbuild, howned, hnames, -⟩ := hbuilt _ _ rfl
    have hset := (List.forall₂_iff_get.mp hnames.answered).2 6 (by decide) (by decide)
    rw [hbuild] at hkept
    exact ⟨_, w, c, hbuild, howned, hnames.capturedAlias _ rfl ⟨"พิมพ์", "print"⟩ (by decide) rfl,
      hnames.capturedPrint _ rfl, hset,
      hnames.other _ (by decide) (by decide) (by decide) (.inr (by decide)), hkept⟩
  · obtain ⟨g, w₂, hcopy, -, hbuilt, -⟩ :=
      (build_gives_names k none Scripted.hookedStart).2 _ _ rfl
    cases hcopy
    obtain ⟨w, c, hbuild, howned, hnames, -⟩ := hbuilt _ _ rfl
    have hset := (List.forall₂_iff_get.mp hnames.answered).2 6 (by decide) (by decide)
    exact ⟨_, w, c, hbuild, howned, hset,
      hnames.other _ (by decide) (by decide) (by decide) (.inl rfl)⟩

/-! ## Builtins that a program has changed -/

open Machine in
/-- A machine that has not run anything, with other builtins, and with no modules but those that a
namespace is made with. -/
def Machine.State.withBuiltins (d : Dictionary Value) : State :=
  let functions : Dictionary Value := [("partial".toList, .cls (.core .partialCall))]
  { State.start .standard with
    heap := #[.dict (.ofNames d), .module "builtins" 0, .dict (.ofNames functions),
      .module "functools" 2]
    builtins := 0
    modules := [("builtins".toList, .ref 1), ("functools".toList, .ref 3)] }

open Machine in
/-- What the builtins of a machine have for a name. -/
def Machine.State.builtin? (s : State) (name : Text) : Option Value :=
  match s.heap[s.builtins]? with
  | some (.dict es) => es.value? name
  | _ => none

open Machine in
/-- It is not enough that the modules can be imported and the builtins are all there: with a `print`
that cannot be called nothing is built. It is not needed either: where `__getattr__` is the method
`setdefault` of the builtins themselves, a namespace is built without `set`, which the builtins then
have. -/
theorem NamespaceParts.not_build_iff_present :
    let p := (interpreter .standard).toNamespaceParts
    let classes := Start.named ["int", "float", "str", "list", "dict"] Start.coreClass
    let noPrint : World State :=
      ⟨.withBuiltins (("print".toList, .int 1) :: ("set".toList, .cls (.core .set)) :: classes),
        .empty⟩
    let noSet : World State :=
      ⟨.withBuiltins (("print".toList, .builtin "print") ::
        ("__getattr__".toList, .bound (.ref 0) (.core .dict) "setdefault") :: classes), .empty⟩
    (isOk (p.builtins noPrint) ∧ isOk (p.binder noPrint) ∧
      (∀ a ∈ aliases, (noPrint.machine.builtin? a.builtin).isSome) ∧
      ¬ isOk (p.build (some .none) noPrint)) ∧
    noSet.machine.builtin? "set" = none ∧ isOk (p.build none noSet) ∧
      ((left (p.build none noSet)).machine.builtin? "set").isSome := by
  decide +kernel

end ThaiScript
