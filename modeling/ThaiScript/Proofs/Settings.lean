import Mathlib.Data.List.DropRight
import Mathlib.Data.List.Forall2
import Mathlib.Data.List.TakeWhile
import ThaiScript.CommandLine.Run

/-!
# Settings and what they follow

Each setting follows from a flag, else from a variable of the environment, else it has a value of its
own: `SetsLanguage`, `SetsLogFilter` and `Traces` say how. Only the variable for the language can be
wrong, and then no flag helps, `Options.settings_eq_error_iff`. The values of variables are texts with
white space around them, `Text.Trims`, and their letters may be capitals, `Text.CaseOf`.
-/

namespace ThaiScript

/-! ## White space around a text -/

namespace Text

/-- `u` is `t` without the white space around it. -/
structure Trims (t u : Text) : Prop where
  exists_eq : ∃ a b, t = a ++ u ++ b ∧ (∀ c ∈ a, isBlankChar c) ∧ ∀ c ∈ b, isBlankChar c
  head : ∀ hu : u ≠ [], ¬isBlankChar (u.head hu)
  getLast : ∀ hu : u ≠ [], ¬isBlankChar (u.getLast hu)

theorem trim_eq (t : Text) : trim t = (t.dropWhile isBlankChar).rdropWhile isBlankChar := rfl

theorem trims_trim (t : Text) : Trims t (trim t) where
  exists_eq := by
    refine ⟨t.takeWhile isBlankChar, (t.dropWhile isBlankChar).rtakeWhile isBlankChar, ?_,
      fun c => List.mem_takeWhile_imp, fun c hc => ?_⟩
    · rw [trim_eq, List.append_assoc, List.rdropWhile_append_rtakeWhile,
        List.takeWhile_append_dropWhile]
    · exact List.mem_takeWhile_imp (List.mem_reverse.mp hc)
  head := by
    intro hu
    have hhead : trim t <+: t.dropWhile isBlankChar := List.rdropWhile_prefix _ _
    rw [hhead.head hu]
    exact ne_true_of_eq_false (List.head_dropWhile_not _ _)
  getLast := List.rdropWhile_last_not _ _

theorem Trims.trim_eq {t u : Text} (h : Trims t u) : trim t = u := by
  obtain ⟨a, b, rfl, ha, hb⟩ := h.exists_eq
  have hdrop : (a ++ u ++ b).dropWhile isBlankChar = if u = [] then [] else u ++ b := by
    rw [List.append_assoc, List.dropWhile_append_of_pos ha]
    cases u with
    | nil => exact List.dropWhile_eq_nil_iff.mpr hb
    | cons c u => exact List.dropWhile_cons_of_neg (h.head nofun)
  rw [Text.trim_eq, hdrop]
  split
  · next hu => exact hu.symm
  · next hu =>
    have hreverse : (u ++ b).rdropWhile isBlankChar = (u.reverse.dropWhile isBlankChar).reverse := by
      rw [List.rdropWhile, List.reverse_append,
        List.dropWhile_append_of_pos fun c hc => hb c (List.mem_reverse.mp hc)]
    exact hreverse.trans (List.rdropWhile_eq_self_iff.mpr h.getLast)

theorem trims_iff {t u : Text} : Trims t u ↔ trim t = u :=
  ⟨Trims.trim_eq, fun h => h ▸ trims_trim t⟩

theorem isBlank_iff {t : Text} : isBlank t ↔ Trims t [] := by
  rw [isBlank, List.all_eq_true]
  constructor
  · exact fun h => ⟨⟨t, [], by simp, h, nofun⟩, nofun, nofun⟩
  · rintro ⟨⟨a, b, rfl, ha, hb⟩, -, -⟩ c hc
    rw [List.append_nil, List.mem_append] at hc
    exact hc.elim (ha c) (hb c)

/-! ## Capitals -/

/-- `c` is `d` or the capital of it. -/
def IsSpelling (c d : Char) : Prop := c = d ∨ c.isUpper ∧ c.toNat + 32 = d.toNat

/-- `t` is the word `w` or has capitals in place of some of its letters. -/
def CaseOf (t w : Text) : Prop := List.Forall₂ IsSpelling t w

theorem toNat_toLower (c : Char) :
    c.toLower.toNat = if c.isUpper then c.toNat + 32 else c.toNat := by
  unfold Char.toLower Char.isUpper
  by_cases h : c.val ≥ 'A'.val ∧ c.val ≤ 'Z'.val
  · have hle : c.val.toNat ≤ 90 := UInt32.le_iff_toNat_le.mp h.2
    have hadd : (c.val + 32).toNat = c.val.toNat + 32 := by
      have hlt : c.val.toNat + 32 < 2 ^ 32 := by omega
      exact (UInt32.toNat_add ..).trans (Nat.mod_eq_of_lt hlt)
    rw [dif_pos h, if_pos (decide_eq_true h)]
    exact hadd
  · rw [dif_neg h, if_neg (by simpa using h)]

theorem toLower_eq_iff {c d : Char} (hd : d.isUpper = false) : c.toLower = d ↔ IsSpelling c d := by
  have hnat : c.toLower = d ↔ c.toLower.toNat = d.toNat := Char.toNat_inj.symm
  rw [hnat, toNat_toLower, IsSpelling]
  split
  · next hc =>
    have hne : c ≠ d := fun h => absurd (h ▸ hc) (ne_true_of_eq_false hd)
    simp [hc, hne]
  · next hc => simp [hc, Char.toNat_inj]

theorem asciiLower_eq_iff {t w : Text} (hw : ∀ c ∈ w, c.isUpper = false) :
    asciiLower t = w ↔ CaseOf t w := by
  induction t generalizing w with
  | nil => rw [CaseOf, List.forall₂_nil_left_iff]; exact eq_comm
  | cons c t ih =>
    cases w with
    | nil => exact iff_of_false nofun nofun
    | cons d w =>
      rw [List.forall_mem_cons] at hw
      rw [CaseOf, List.forall₂_cons, ← toLower_eq_iff hw.1]
      exact List.cons_eq_cons.trans (and_congr_right fun _ => ih hw.2)

end Text

/-! ## Names of languages -/

namespace Language

/-- What stands between the code of a language and what else a locale says. -/
def separators : List Char := ['_', '-', '.']

/-- A locale that is of a language: its code in any case, and nothing else or a suffix behind a
separator. -/
def Names (l : Language) (locale : Text) : Prop :=
  ∃ base suffix, locale = base ++ suffix ∧ Text.CaseOf base l.code ∧
    ∀ c ∈ suffix.head?, c ∈ separators

theorem isUpper_of_mem_code {l : Language} : ∀ c ∈ l.code, c.isUpper = false := by
  cases l <;> simp [code]

theorem toLower_not_mem_code (l : Language) : ∀ c ∈ separators, c.toLower ∉ l.code := by
  cases l <;> simp [separators, code]

theorem find?_code_eq_some_iff {l : Language} {base : Text} :
    (all.find? fun l => l.code = base) = some l ↔ base = l.code := by
  constructor
  · intro h
    have hcode := List.find?_some h
    exact (of_decide_eq_true hcode).symm
  · rintro rfl
    cases l <;> decide

/-- What stands before the first separator is the code, in any case. -/
theorem caseOf_takeWhile_iff {l : Language} {locale : Text} {p : Char → Bool}
    (hp : ∀ c, p c ↔ c ∉ separators) :
    Text.CaseOf (locale.takeWhile p) l.code ↔ l.Names locale := by
  constructor
  · intro h
    refine ⟨_, locale.dropWhile p, List.takeWhile_append_dropWhile.symm, h, fun c hc => ?_⟩
    have hstop := List.head?_dropWhile_not p locale
    rw [hc] at hstop
    exact not_not.mp ((hp c).not.mp (ne_true_of_eq_false hstop))
  · rintro ⟨base, suffix, rfl, hbase, hsuffix⟩
    have hlower := (Text.asciiLower_eq_iff isUpper_of_mem_code).mpr hbase
    -- A separator is its own lower case, so it would stand in the code.
    have hall : ∀ c ∈ base, p c := fun c hc => (hp c).mpr fun hsep =>
      l.toLower_not_mem_code c hsep (hlower ▸ List.mem_map_of_mem hc)
    rw [List.takeWhile_append_of_pos hall]
    cases suffix with
    | nil => simpa using hbase
    | cons c suffix =>
      rw [List.takeWhile_cons_of_neg fun h => (hp c).mp h (hsuffix c rfl), List.append_nil]
      exact hbase

theorem Names.ne_nil {l : Language} {locale : Text} (h : l.Names locale) : locale ≠ [] := by
  obtain ⟨base, suffix, rfl, hbase, -⟩ := h
  have hcode : 0 < l.code.length := by cases l <;> decide
  rw [← hbase.length_eq] at hcode
  exact List.append_ne_nil_of_left_ne_nil (List.ne_nil_of_length_pos hcode) suffix

theorem ofCode?_eq_some_iff {l : Language} {locale : Text} :
    ofCode? locale = some l ↔ l.Names locale := by
  rw [ofCode?, find?_code_eq_some_iff, Text.asciiLower_eq_iff isUpper_of_mem_code]
  exact caseOf_takeWhile_iff fun c => by simp [separators]

end Language

/-! ## What settings follow -/

namespace Settings

/-- A variable is set to `v`, which is `u` without the white space around it. -/
def Holds (env : Environment) (name v u : Text) : Prop := env name = some v ∧ v.Trims u

/-- A variable is not set, or to nothing but white space. -/
def Unset (env : Environment) (name : Text) : Prop := ∀ v, env name = some v → v.Trims []

/-- The variable for the language is set to `v`, which is of no language. -/
def Refused (env : Environment) (v : Text) : Prop :=
  ∃ u, Holds env languageVariable v u ∧ u ≠ [] ∧ ∀ l : Language, ¬l.Names u

def truthWords : List Text := ["1", "true", "yes", "on"]

variable {env : Environment} {name v : Text}

theorem filled_eq_none_iff : filled env name = none ↔ Unset env name := by
  simp only [filled, Option.filter_eq_none_iff, Unset, ← Text.isBlank_iff]
  simp

theorem filled_eq_some_iff : filled env name = some v ↔ ∃ u, Holds env name v u ∧ u ≠ [] := by
  rw [filled, Option.filter_eq_some_iff]
  constructor
  · rintro ⟨hv, hblank⟩
    refine ⟨v.trim, ⟨hv, v.trims_trim⟩, fun htrim => ?_⟩
    rw [Text.isBlank_iff.mpr (Text.trims_iff.mpr htrim)] at hblank
    cases hblank
  · rintro ⟨u, ⟨hv, htrims⟩, hu⟩
    refine ⟨hv, ?_⟩
    rw [Bool.not_eq_true', Bool.eq_false_iff]
    exact fun hblank => hu (htrims.trim_eq.symm.trans (Text.isBlank_iff.mp hblank).trim_eq)

theorem filled_congr {env' : Environment} (h : env name = env' name) :
    filled env name = filled env' name := by
  rw [filled, filled, h]

theorem isTruthy_iff : isTruthy v ↔ ∃ u w, v.Trims u ∧ w ∈ truthWords ∧ u.CaseOf w := by
  have hlower : ∀ w ∈ truthWords, ∀ c ∈ w, c.isUpper = false := by simp [truthWords]
  have hwords : isTruthy v ↔ Text.asciiLower v.trim ∈ truthWords := by
    rw [isTruthy, decide_eq_true_iff]
    rfl
  rw [hwords]
  constructor
  · intro hmem
    exact ⟨_, _, v.trims_trim, hmem, (Text.asciiLower_eq_iff (hlower _ hmem)).mp rfl⟩
  · rintro ⟨u, w, htrims, hw, hcase⟩
    rw [htrims.trim_eq, (Text.asciiLower_eq_iff (hlower w hw)).mpr hcase]
    exact hw

/-- The language that the environment asks for. -/
inductive Asks (env : Environment) : Language → Prop
  | value {l : Language} {v u : Text} : Holds env languageVariable v u → l.Names u → Asks env l
  | unset : Unset env languageVariable → Asks env .thai

theorem languageOf_eq_ok {l : Language} (h : Asks env l) : languageOf env = .ok l := by
  unfold languageOf
  cases h with
  | unset h => rw [filled_eq_none_iff.mpr h]
  | value hv hl =>
    rw [filled_eq_some_iff.mpr ⟨_, hv, hl.ne_nil⟩]
    dsimp only
    rw [hv.2.trim_eq, Language.ofCode?_eq_some_iff.mpr hl]

theorem languageOf_eq_error (h : Refused env v) :
    languageOf env = .error (.unsupportedLanguage v) := by
  obtain ⟨u, hv, hu, hl⟩ := h
  have hcode : Language.ofCode? u = none :=
    Option.eq_none_iff_forall_ne_some.mpr fun l => Language.ofCode?_eq_some_iff.not.mpr (hl l)
  rw [languageOf, filled_eq_some_iff.mpr ⟨u, hv, hu⟩]
  dsimp only
  rw [hv.2.trim_eq, hcode]

/-- An environment asks for a language, or for one that there is not. -/
theorem asks_or_refused (env : Environment) : (∃ l, Asks env l) ∨ ∃ v, Refused env v := by
  cases hfilled : filled env languageVariable with
  | none => exact .inl ⟨_, .unset (filled_eq_none_iff.mp hfilled)⟩
  | some v =>
    obtain ⟨u, hv, hu⟩ := filled_eq_some_iff.mp hfilled
    by_cases hl : ∃ l : Language, l.Names u
    · obtain ⟨l, hl⟩ := hl
      exact .inl ⟨l, .value hv hl⟩
    · exact .inr ⟨v, u, hv, hu, not_exists.mp hl⟩

theorem Asks.congr {env' : Environment} {l : Language} (h : Asks env l)
    (heq : env languageVariable = env' languageVariable) : Asks env' l := by
  cases h with
  | value hv hl => exact .value ⟨heq.symm.trans hv.1, hv.2⟩ hl
  | unset h => exact .unset fun v hv => h v (heq.trans hv)

theorem refused_congr {env' : Environment} (h : env languageVariable = env' languageVariable) :
    Refused env v ↔ Refused env' v := by
  simp only [Refused, Holds, h]

theorem Asks.not_refused {l : Language} (h : Asks env l) : ¬Refused env v := by
  intro hrefused
  have heq := (languageOf_eq_ok h).symm.trans (languageOf_eq_error hrefused)
  cases heq

theorem languageOf_eq_error_iff {e : SettingsError} :
    languageOf env = .error e ↔ ∃ v, Refused env v ∧ e = .unsupportedLanguage v := by
  constructor
  · intro h
    rcases asks_or_refused env with ⟨l, hasks⟩ | ⟨v, hrefused⟩
    · rw [languageOf_eq_ok hasks] at h
      cases h
    · rw [languageOf_eq_error hrefused] at h
      exact ⟨v, hrefused, (Except.error.inj h).symm⟩
  · rintro ⟨v, hrefused, rfl⟩
    exact languageOf_eq_error hrefused

end Settings

namespace CommandLine.Options

open Settings

/-- The language that a call asks for. -/
inductive SetsLanguage (o : Options) (env : Environment) : Language → Prop
  | flag {l : Language} : o.language = some l → SetsLanguage o env l
  | environment {l : Language} : o.language = .none → Asks env l → SetsLanguage o env l

/-- The log filter is the value of its variable as it is written. -/
inductive SetsLogFilter (o : Options) (env : Environment) : Text → Prop
  | flag : o.verbose = true → SetsLogFilter o env verboseLogFilter
  | value {v u : Text} : o.verbose = false → Holds env logVariable v u → u ≠ [] →
      SetsLogFilter o env v
  | unset : o.verbose = false → Unset env logVariable → SetsLogFilter o env defaultLogFilter

inductive Traces (o : Options) (env : Environment) : Prop
  | flag : o.traceback = true → Traces o env
  | value {v u w : Text} : Holds env tracebackVariable v u → w ∈ truthWords → u.CaseOf w →
      Traces o env

variable {o : Options} {env : Environment}

theorem setsLanguage_iff {l l' : Language} (h : Asks env l) :
    SetsLanguage o env l' ↔ l' = o.language.getD l := by
  have hunique {l' : Language} (h' : Asks env l') : l' = l :=
    Except.ok.inj ((languageOf_eq_ok h').symm.trans (languageOf_eq_ok h))
  constructor
  · rintro (hflag | ⟨hflag, h'⟩)
    · rw [hflag]
      rfl
    · rw [hflag]
      exact hunique h'
  · rintro rfl
    cases hflag : o.language with
    | none => exact .environment hflag h
    | some l' => exact .flag hflag

theorem setsLogFilter_iff {f : Text} : SetsLogFilter o env f ↔
    f = if o.verbose then verboseLogFilter else (filled env logVariable).getD defaultLogFilter := by
  constructor
  · rintro (hflag | ⟨hflag, hv, hu⟩ | ⟨hflag, hunset⟩)
    · rw [if_pos hflag]
    · rw [hflag, filled_eq_some_iff.mpr ⟨_, hv, hu⟩]
      rfl
    · rw [hflag, filled_eq_none_iff.mpr hunset]
      rfl
  · rintro rfl
    cases hflag : o.verbose with
    | true => exact .flag hflag
    | false =>
      cases hfilled : filled env logVariable with
      | none => exact .unset hflag (filled_eq_none_iff.mp hfilled)
      | some v =>
        obtain ⟨u, hv, hu⟩ := filled_eq_some_iff.mp hfilled
        exact .value hflag hv hu

theorem traces_iff :
    Traces o env ↔ (o.traceback || ((env tracebackVariable).map isTruthy).getD false) = true := by
  rw [Bool.or_eq_true]
  constructor
  · rintro (hflag | ⟨⟨hv, htrims⟩, hw, hcase⟩)
    · exact .inl hflag
    · rw [hv]
      exact .inr (isTruthy_iff.mpr ⟨_, _, htrims, hw, hcase⟩)
  · rintro (hflag | hvariable)
    · exact .flag hflag
    · cases hv : env tracebackVariable with
      | none =>
        rw [hv] at hvariable
        cases hvariable
      | some v =>
        rw [hv] at hvariable
        obtain ⟨u, w, htrims, hw, hcase⟩ := isTruthy_iff.mp hvariable
        exact .value ⟨hv, htrims⟩ hw hcase

/-- No log filter is blank. -/
theorem SetsLogFilter.not_trims_nil {f : Text} (h : SetsLogFilter o env f) : ¬f.Trims [] := by
  rw [Text.trims_iff]
  cases h with
  | flag => decide
  | unset => decide
  | value hflag hv hu =>
    rw [hv.2.trim_eq]
    exact hu

/-! ## Settings of a call -/

theorem settings_eq_error_iff {e : SettingsError} : o.settings env = .error e ↔
    ∃ v, Refused env v ∧ e = .unsupportedLanguage v := by
  rw [← languageOf_eq_error_iff, settings, ofEnvironment]
  cases languageOf env <;> simp [bind, Except.bind, pure, Except.pure]

theorem settings_eq_ok_iff {s : Settings} : o.settings env = .ok s ↔
    (∀ v, ¬Refused env v) ∧ o.SetsLanguage env s.language ∧ o.SetsLogFilter env s.logFilter ∧
      (s.traceback = true ↔ o.Traces env) := by
  rcases asks_or_refused env with ⟨l, h⟩ | ⟨v, h⟩
  · obtain ⟨language, logFilter, traceback⟩ := s
    rw [setsLanguage_iff h, setsLogFilter_iff, traces_iff, Bool.coe_iff_coe, settings, ofEnvironment,
      languageOf_eq_ok h, and_iff_right fun v => h.not_refused]
    simp only [bind, Except.bind, pure, Except.pure, Except.ok.injEq, Settings.mk.injEq]
    exact and_congr eq_comm (and_congr eq_comm eq_comm)
  · rw [settings_eq_error_iff.mpr ⟨v, h, rfl⟩]
    exact iff_of_false nofun fun hs => hs.1 v h

theorem exists_settings_iff : (∃ s, o.settings env = .ok s) ↔ ∀ v, ¬Refused env v := by
  constructor
  · rintro ⟨s, hs⟩
    exact (settings_eq_ok_iff.mp hs).1
  · intro h
    cases hs : o.settings env with
    | ok s => exact ⟨s, rfl⟩
    | error e =>
      obtain ⟨v, hv, -⟩ := settings_eq_error_iff.mp hs
      exact absurd hv (h v)

/-! ## What a setting does not follow -/

variable {o' : Options} {env' : Environment} {s s' : Settings}

theorem language_eq (hs : o.settings env = .ok s) (hs' : o'.settings env' = .ok s')
    (hflag : o.language = o'.language) (hvariable : env languageVariable = env' languageVariable) :
    s.language = s'.language := by
  obtain ⟨hrefused, hlanguage, -⟩ := settings_eq_ok_iff.mp hs
  obtain ⟨l, hasks⟩ := (asks_or_refused env).resolve_right (not_exists.mpr hrefused)
  rw [(setsLanguage_iff hasks).mp hlanguage, hflag,
    (setsLanguage_iff (hasks.congr hvariable)).mp (settings_eq_ok_iff.mp hs').2.1]

theorem logFilter_eq (hs : o.settings env = .ok s) (hs' : o'.settings env' = .ok s')
    (hflag : o.verbose = o'.verbose) (hvariable : env logVariable = env' logVariable) :
    s.logFilter = s'.logFilter := by
  rw [setsLogFilter_iff.mp (settings_eq_ok_iff.mp hs).2.2.1,
    setsLogFilter_iff.mp (settings_eq_ok_iff.mp hs').2.2.1, hflag, filled_congr hvariable]

theorem traceback_eq (hs : o.settings env = .ok s) (hs' : o'.settings env' = .ok s')
    (hflag : o.traceback = o'.traceback)
    (hvariable : env tracebackVariable = env' tracebackVariable) : s.traceback = s'.traceback := by
  rw [Bool.eq_iff_iff, (settings_eq_ok_iff.mp hs).2.2.2, (settings_eq_ok_iff.mp hs').2.2.2,
    traces_iff, traces_iff, hflag, hvariable]

/-- What a call sets, and which calls are refused. Each setting follows from its own flag and its own
variable, so that no other flag or variable can change it, and whether a call is refused follows from
the variable for the language alone. -/
theorem settings_follow (o : Options) (env : Environment) :
    (∀ e, o.settings env = .error e ↔ ∃ v, Refused env v ∧ e = .unsupportedLanguage v) ∧
    (∀ v, (SettingsError.unsupportedLanguage v).message =
      "THAI_PYTHON_LANG has unsupported language '".toList ++ v ++ "'".toList) ∧
    ((∃ s, o.settings env = .ok s) ↔ ∀ v, ¬Refused env v) ∧
    (∀ s, o.settings env = .ok s ↔ (∀ v, ¬Refused env v) ∧ o.SetsLanguage env s.language ∧
      o.SetsLogFilter env s.logFilter ∧ (s.traceback = true ↔ o.Traces env)) ∧
    (∀ s, o.settings env = .ok s → ¬s.logFilter.Trims []) ∧
    ∀ (o' : Options) (env' : Environment),
      (env languageVariable = env' languageVariable →
        ∀ e, o.settings env = .error e ↔ o'.settings env' = .error e) ∧
      ∀ s s', o.settings env = .ok s → o'.settings env' = .ok s' →
        (o.language = o'.language → env languageVariable = env' languageVariable →
          s.language = s'.language) ∧
        (o.verbose = o'.verbose → env logVariable = env' logVariable →
          s.logFilter = s'.logFilter) ∧
        (o.traceback = o'.traceback → env tracebackVariable = env' tracebackVariable →
          s.traceback = s'.traceback) := by
  refine ⟨fun e => settings_eq_error_iff, fun v => rfl, exists_settings_iff,
    fun s => settings_eq_ok_iff, fun s hs => (settings_eq_ok_iff.mp hs).2.2.1.not_trims_nil,
    fun o' env' => ⟨fun hvariable e => ?_, fun s s' hs hs' => ?_⟩⟩
  · rw [settings_eq_error_iff, settings_eq_error_iff]
    exact exists_congr fun v => and_congr_left' (refused_congr hvariable)
  · exact ⟨language_eq hs hs', logFilter_eq hs hs', traceback_eq hs hs'⟩

/-- An environment in which all three variables are set, with white space and capitals. -/
def spaced : Environment := fun name =>
  ([(languageVariable, " EN-us\n"), (logVariable, " off "), (tracebackVariable, "\u00a0Yes")] :
    List (Text × Text)).lookup name

theorem settings_follow_spaced :
    Options.none.settings spaced = .ok ⟨.english, " off ", true⟩ ∧
      ∃ s, { Options.none with verbose := true }.settings spaced = .ok s ∧
        s.language = .english ∧ s.traceback = true ∧ ¬s.logFilter.Trims [] := by
  obtain ⟨-, -, hexists, hok, -, hkeeps⟩ := settings_follow Options.none spaced
  have hs : Options.none.settings spaced = .ok ⟨.english, " off ", true⟩ := rfl
  obtain ⟨-, -, hexists', -, hfilter, -⟩ :=
    settings_follow { Options.none with verbose := true } spaced
  obtain ⟨s, hs'⟩ := hexists'.mpr (hexists.mp ⟨_, hs⟩)
  obtain ⟨hlanguage, -, htraceback⟩ := (hkeeps _ _).2 _ _ hs hs'
  exact ⟨hs, s, hs', (hlanguage rfl rfl).symm, (htraceback rfl rfl).symm, hfilter s hs'⟩

end CommandLine.Options

end ThaiScript
