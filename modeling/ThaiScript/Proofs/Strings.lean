import ThaiScript.Text.Basic

/-!
# The strings of a program

A reader goes through a program one character at a time. `Mode` says where it stands, `step` where
the next character takes it, and `place` whether that character belongs to a string. A `#` in code
opens a comment that ends with its line. A string opens at a quote, or at three of them, and ends at
the first such quotes that no backslash escapes; only a string with three quotes may hold a line
break that is not escaped. `strings` collects the strings of a program in which each one ends.

Between signs, that is quotes, backslashes, `#` and line breaks, a stretch of text only settles the
reader: `collect_plain`. What the stretch is, and how long, has no say in what is read behind it.
-/

namespace ThaiScript.Strings

inductive Quote where
  | single
  | double
deriving DecidableEq, Repr

namespace Quote

def char : Quote → Char
  | single => '\''
  | double => '"'

def ofChar? (c : Char) : Option Quote :=
  if c = '\'' then some single else if c = '"' then some double else none

theorem ofChar?_eq_some {c : Char} {q : Quote} : ofChar? c = some q ↔ c = q.char := by
  cases q <;> simp only [ofChar?, char] <;> split <;> simp_all

end Quote

def isBreak (c : Char) : Bool := c = '\n' || c = '\r'

/-! ## The reader -/

inductive Mode where
  | code
  | comment
  /-- Behind the quote that opens a string. -/
  | opened (q : Quote)
  /-- Behind two quotes: the string was empty unless a third one follows. -/
  | twice (q : Quote)
  | line (q : Quote)
  | lineEscape (q : Quote)
  /-- Behind an escaped carriage return; a line feed would belong to the same break. -/
  | lineReturn (q : Quote)
  /-- In a string with three quotes, behind `run` quotes that may be the first to close it. -/
  | block (q : Quote) (run : Nat)
  | blockEscape (q : Quote)
  /-- Behind a line that ended inside a string. -/
  | broken
deriving DecidableEq, Repr

def codeStep (c : Char) : Mode :=
  match Quote.ofChar? c with
  | some q => .opened q
  | none => if c = '#' then .comment else .code

def lineStep (q : Quote) (c : Char) : Mode :=
  if c = q.char then .code
  else if c = '\\' then .lineEscape q
  else if isBreak c then .broken
  else .line q

def blockStep (q : Quote) (run : Nat) (c : Char) : Mode :=
  if c = q.char then if run = 2 then .code else .block q (run + 1)
  else if c = '\\' then .blockEscape q
  else .block q 0

def step : Mode → Char → Mode
  | .code, c => codeStep c
  | .comment, c => if isBreak c then .code else .comment
  | .opened q, c => if c = q.char then .twice q else lineStep q c
  | .twice q, c => if c = q.char then .block q 0 else codeStep c
  | .line q, c => lineStep q c
  | .lineEscape q, c => if c = '\r' then .lineReturn q else .line q
  | .lineReturn q, c => if c = '\n' then .line q else lineStep q c
  | .block q run, c => blockStep q run c
  | .blockEscape q, _ => .block q 0
  | .broken, _ => .broken

/-- Whether a character stands outside of strings, opens one, or belongs to the one that is open. -/
inductive Place where
  | outside
  | first
  | inside
deriving DecidableEq, Repr

def codePlace (c : Char) : Place := if (Quote.ofChar? c).isSome then .first else .outside

def place : Mode → Char → Place
  | .code, c => codePlace c
  | .comment, _ => .outside
  | .twice q, c => if c = q.char then .inside else codePlace c
  | .broken, _ => .outside
  | _, _ => .inside

/-- No string is open. -/
def Mode.closed : Mode → Bool
  | .code | .comment | .twice _ => true
  | _ => false

section
variable {α β : Type} (char : α → Char)

/-- The mode behind a text. -/
def run (m : Mode) (xs : List α) : Mode := xs.foldl (fun m x => step m (char x)) m

/-- What a text adds to the string that is open, and the strings that open in it. -/
def collect : Mode → List α → List α × List (List α)
  | _, [] => ([], [])
  | m, x :: xs =>
    let r := collect (step m (char x)) xs
    match place m (char x) with
    | .outside => ([], r.2)
    | .first => ([], (x :: r.1) :: r.2)
    | .inside => (x :: r.1, r.2)

end

/-- The strings of a program with their quotes, in order, when each of them ends. -/
def strings (t : Text) : Option (List Text) :=
  if (run id .code t).closed then some (collect id .code t).2 else none

theorem isSome_strings (t : Text) : (strings t).isSome = (run id .code t).closed := by
  unfold strings
  cases (run id .code t).closed <;> rfl

example : strings "a = 'b' # it's\n\"\"\"c\"'\"\"\" + ''".toList =
    some ["'b'".toList, "\"\"\"c\"'\"\"\"".toList, "''".toList] := by decide

example : strings "'a\nb'".toList = none := by decide

/-! ## Signs -/

/-- The characters that a reader stops at. -/
def isSign (c : Char) : Bool := (Quote.ofChar? c).isSome || c = '\\' || c = '#' || isBreak c

/-- The mode behind a stretch without signs. -/
def Mode.settled : Mode → Mode
  | .code | .twice _ => .code
  | .comment => .comment
  | .opened q | .line q | .lineEscape q | .lineReturn q => .line q
  | .block q _ | .blockEscape q => .block q 0
  | .broken => .broken

/-- Such a stretch belongs to a string. -/
def Mode.inString : Mode → Bool
  | .code | .comment | .twice _ | .broken => false
  | _ => true

@[simp] theorem Mode.settled_settled (m : Mode) : m.settled.settled = m.settled := by
  cases m <;> rfl

@[simp] theorem Mode.inString_settled (m : Mode) : m.settled.inString = m.inString := by
  cases m <;> rfl

section
variable {c : Char} (h : isSign c = false)
include h

theorem ofChar?_of_not_isSign : Quote.ofChar? c = none := by
  simp only [isSign, Bool.or_eq_false_iff] at h
  exact Option.isSome_eq_false_iff.mp h.1.1.1 |> Option.isNone_iff_eq_none.mp

theorem ne_char_of_not_isSign (q : Quote) : c ≠ q.char := by
  intro hc
  rw [← Quote.ofChar?_eq_some, ofChar?_of_not_isSign h] at hc
  cases hc

theorem step_of_not_isSign (m : Mode) : step m c = m.settled := by
  have hq := ne_char_of_not_isSign h
  have ho := ofChar?_of_not_isSign h
  simp only [isSign, isBreak, Bool.or_eq_false_iff, decide_eq_false_iff_not] at h
  obtain ⟨⟨⟨_, hesc⟩, hhash⟩, hlf, hcr⟩ := h
  cases m <;> simp [step, codeStep, lineStep, blockStep, isBreak, Mode.settled, hq, ho, hesc, hhash,
    hlf, hcr]

theorem place_of_not_isSign (m : Mode) :
    place m c = if m.inString then .inside else .outside := by
  have hq := ne_char_of_not_isSign h
  have ho := ofChar?_of_not_isSign h
  cases m <;> simp [place, codePlace, Mode.inString, hq, ho]

end

/-! ## Reading -/

section
variable {α β : Type} (char : α → Char)

theorem run_cons (m : Mode) (x : α) (xs : List α) :
    run char m (x :: xs) = run char (step m (char x)) xs := rfl

theorem run_append (m : Mode) (xs ys : List α) :
    run char m (xs ++ ys) = run char (run char m xs) ys := List.foldl_append

/-- Reading commutes with a map that keeps the characters. -/
theorem run_map (f : β → α) (m : Mode) (xs : List β) :
    run char m (xs.map f) = run (fun x => char (f x)) m xs := List.foldl_map

theorem collect_map (f : β → α) (m : Mode) (xs : List β) :
    collect char m (xs.map f) = ((collect (fun x => char (f x)) m xs).1.map f,
      (collect (fun x => char (f x)) m xs).2.map (List.map f)) := by
  induction xs generalizing m with
  | nil => rfl
  | cons x xs ih =>
    rw [List.map_cons, collect, collect, ih]
    cases place m (char (f x)) <;> rfl

theorem collect_fst_isPrefix (m : Mode) (xs : List α) : (collect char m xs).1 <+: xs := by
  induction xs generalizing m with
  | nil => exact List.nil_prefix
  | cons x xs ih =>
    rw [collect]
    cases place m (char x) with
    | outside => exact List.nil_prefix
    | first => exact List.nil_prefix
    | inside => exact (List.prefix_cons_inj x).mpr (ih _)

section
variable {p : List α} (hp : ∀ x ∈ p, isSign (char x) = false) (hne : p ≠ [])
include hp hne

theorem run_plain (m : Mode) : run char m p = m.settled := by
  induction p generalizing m with
  | nil => exact absurd rfl hne
  | cons x p ih =>
    rw [run_cons, step_of_not_isSign (hp x List.mem_cons_self)]
    cases p with
    | nil => rfl
    | cons y p =>
      rw [ih (fun z hz => hp z (List.mem_cons_of_mem x hz)) (List.cons_ne_nil y p),
        Mode.settled_settled]

/-- A stretch without signs is in a string as a whole or not at all. -/
theorem collect_plain (m : Mode) (xs : List α) :
    collect char m (p ++ xs) =
      (if m.inString then p ++ (collect char m.settled xs).1 else [],
        (collect char m.settled xs).2) := by
  induction p generalizing m with
  | nil => exact absurd rfl hne
  | cons x p ih =>
    have hx := hp x List.mem_cons_self
    rw [List.cons_append, collect, step_of_not_isSign hx, place_of_not_isSign hx]
    cases p with
    | nil => cases m.inString <;> rfl
    | cons y p =>
      rw [ih (fun z hz => hp z (List.mem_cons_of_mem x hz)) (List.cons_ne_nil y p),
        Mode.settled_settled, Mode.inString_settled]
      cases m.inString <;> rfl

end

end

end ThaiScript.Strings
