import ThaiScript.Encoding.Utf16
import ThaiScript.Translation.Json

/-!
# Reading JSON documents

`decode` reads a document: blanks, the literals, numerals, strings with their escapes, arrays and
objects. A string that was written is read back (`readString?_escape`), whatever its characters are, and
so is a translation that was written: `decode_ofTranslation`.
-/

namespace ThaiScript.Json

/-! ## Strings -/

/-- What stands in a string: a character, or a unit of UTF-16 by its number. -/
inductive Item
  | plain (c : Char)
  | unit (n : Nat)
deriving DecidableEq, Repr

/-- The character that another stands for behind a backslash. -/
def escaped? (c : Char) : Option Char :=
  [('"', '"'), ('\\', '\\'), ('/', '/'), ('b', '\x08'), ('f', '\x0c'), ('n', '\n'), ('r', '\r'),
    ('t', '\t')].lookup c

def hexDigit? (c : Char) : Option Nat :=
  if '0' ≤ c ∧ c ≤ '9' then some (c.toNat - 48)
  else if 'a' ≤ c ∧ c ≤ 'f' then some (c.toNat - 87)
  else if 'A' ≤ c ∧ c ≤ 'F' then some (c.toNat - 55)
  else none

/-- The part of a string that is being read. -/
inductive Part
  | plain
  | escape
  /-- A unit, of which some digits have been read that stand for `n`. -/
  | unit (digits n : Nat)
deriving DecidableEq, Repr

/-- What stands in a string up to its closing quote, and what follows that. -/
def scan : Part → Text → Option (List Item × Text)
  | _, [] => none
  | .plain, c :: t =>
    if c = '"' then some ([], t)
    else if c = '\\' then scan .escape t
    else if c.toNat < 0x20 then none
    else (scan .plain t).map fun (is, rest) => (.plain c :: is, rest)
  | .escape, c :: t =>
    if c = 'u' then scan (.unit 0 0) t
    else match escaped? c with
      | none => none
      | some d => (scan .plain t).map fun (is, rest) => (.plain d :: is, rest)
  | .unit digits n, c :: t =>
    match hexDigit? c with
    | none => none
    | some d =>
      if digits = 3 then (scan .plain t).map fun (is, rest) => (.unit (16 * n + d) :: is, rest)
      else scan (.unit (digits + 1) (16 * n + d)) t

/-- The text that items make. Half of a pair of units is no character. -/
def assemble? : List Item → Option Text
  | [] => some []
  | .plain c :: is => (assemble? is).map (c :: ·)
  | .unit n :: is =>
    if Utf16.isHigh n then
      match is with
      | .unit m :: is =>
        if Utf16.isLow m then
          (assemble? is).map (Char.ofNat (0x10000 + (n - 0xD800) * 0x400 + (m - 0xDC00)) :: ·)
        else none
      | _ => none
    else if Utf16.isLow n then none
    else (assemble? is).map (Char.ofNat n :: ·)

/-- A string behind its opening quote, and what follows it. -/
def readString? (t : Text) : Option (Text × Text) := do
  let (is, rest) ← scan .plain t
  return (← assemble? is, rest)

/-! ## Values -/

inductive Value
  | null
  | boolean (b : Bool)
  | number (numeral : Text)
  | string (t : Text)
  | array (vs : List Value)
  | object (members : List (Text × Value))

def isBlank (c : Char) : Bool := c = ' ' || c = '\t' || c = '\n' || c = '\r'

def skipBlanks (t : Text) : Text := t.dropWhile isBlank

/-- One digit or more, and what follows them. -/
def digits? (t : Text) : Option (Text × Text) :=
  match t.span Char.isDigit with
  | ([], _) => none
  | (ds, rest) => some (ds, rest)

/-- The digits behind a sign that may stand between a mark and them. -/
def exponent? : Text → Option (Text × Text)
  | '+' :: t => (digits? t).map fun (ds, rest) => ('+' :: ds, rest)
  | '-' :: t => (digits? t).map fun (ds, rest) => ('-' :: ds, rest)
  | t => digits? t

/-- A part of a numeral that begins with a mark, or nothing. -/
def optionalPart? (marks : List Char) (part : Text → Option (Text × Text)) :
    Text → Option (Text × Text)
  | [] => some ([], [])
  | c :: t =>
    if c ∈ marks then (part t).map fun (ds, rest) => (c :: ds, rest) else some ([], c :: t)

/-- A numeral and what follows it. No zero stands before the other digits of an integer. -/
def numeral? (t : Text) : Option (Text × Text) := do
  let (sign, t) := t.span (· = '-')
  let (whole, t) ← digits? t
  if 1 < sign.length ∨ 1 < whole.length ∧ whole.head? = some '0' then none
  let (fraction, t) ← optionalPart? ['.'] digits? t
  let (power, t) ← optionalPart? ['e', 'E'] exponent? t
  return (sign ++ whole ++ fraction ++ power, t)

def literals : List (Text × Value) :=
  [("null", .null), ("true", .boolean true), ("false", .boolean false)]

/-- A literal or a numeral, and what follows it. -/
def atom? (t : Text) : Option (Value × Text) :=
  match literals.findSome? fun (word, v) => (Text.after? word t).map fun rest => (v, rest) with
  | some found => some found
  | none => (numeral? t).map fun (n, rest) => (.number n, rest)

mutual

/-- A value and what follows it. -/
def value? : (levels : Nat) → Text → Option (Value × Text)
  | 0, _ => none
  | n + 1, t =>
    match skipBlanks t with
    | '"' :: t => (readString? t).map fun (s, rest) => (.string s, rest)
    | '[' :: t =>
      match skipBlanks t with
      | ']' :: t => some (.array [], t)
      | t => (elements? n t).map fun (vs, rest) => (.array vs, rest)
    | '\x7b' :: t =>
      match skipBlanks t with
      | '\x7d' :: t => some (.object [], t)
      | t => (members? n t).map fun (ms, rest) => (.object ms, rest)
    | t => atom? t

/-- The elements of an array up to its end, and what follows that. -/
def elements? : (levels : Nat) → Text → Option (List Value × Text)
  | 0, _ => none
  | n + 1, t =>
    match value? n t with
    | none => none
    | some (v, t) =>
      match skipBlanks t with
      | ']' :: t => some ([v], t)
      | ',' :: t => (elements? n t).map fun (vs, rest) => (v :: vs, rest)
      | _ => none

/-- The members of an object up to its end, and what follows that. -/
def members? : (levels : Nat) → Text → Option (List (Text × Value) × Text)
  | 0, _ => none
  | n + 1, t =>
    match (skipBlanks t) with
    | '"' :: t =>
      match readString? t with
      | none => none
      | some (name, t) =>
        match skipBlanks t with
        | ':' :: t =>
          match value? n t with
          | none => none
          | some (v, t) =>
            match skipBlanks t with
            | '\x7d' :: t => some ([(name, v)], t)
            | ',' :: t => (members? n t).map fun (ms, rest) => ((name, v) :: ms, rest)
            | _ => none
        | _ => none
    | _ => none

end

/-- The value that a document is. Two levels take away at least a character, so there are enough of them
for every document. -/
def decode (t : Text) : Option Value :=
  match value? (2 * t.length + 1) t with
  | some (v, rest) => if skipBlanks rest = [] then some v else none
  | none => none

/-! ## Strings that were written -/

section
variable {c : Char} {i : Item} {t u rest : Text}

theorem readString?_of_scan (hi : ∀ is, assemble? (i :: is) = (assemble? is).map (c :: ·))
    (h : scan .plain t = (scan .plain u).map fun (is, rest) => (i :: is, rest)) :
    readString? t = (readString? u).map fun (s, rest) => (c :: s, rest) := by
  unfold readString?
  rw [h]
  cases scan .plain u with
  | none => rfl
  | some r =>
    obtain ⟨is, rest⟩ := r
    simp only [Option.map_some, bind, Option.bind, hi]
    cases assemble? is <;> rfl

theorem assemble?_plain (is : List Item) :
    assemble? (.plain c :: is) = (assemble? is).map (c :: ·) := rfl

theorem assemble?_control (h : c.toNat < 0x20) (is : List Item) :
    assemble? (.unit c.toNat :: is) = (assemble? is).map (c :: ·) := by
  have hhigh : Utf16.isHigh c.toNat = false := by
    simp only [Utf16.isHigh, Bool.and_eq_false_iff, decide_eq_false_iff_not]
    omega
  have hlow : Utf16.isLow c.toNat = false := by
    simp only [Utf16.isLow, Bool.and_eq_false_iff, decide_eq_false_iff_not]
    omega
  cases is with
  | nil => simp [assemble?, hhigh, hlow]
  | cons i is => cases i <;> simp [assemble?, hhigh, hlow]

theorem scan_escaped {d : Char} (hu : d ≠ 'u') (h : escaped? d = some c) :
    scan .plain ('\\' :: d :: u) = (scan .plain u).map fun (is, rest) => (.plain c :: is, rest) := by
  rw [scan, if_neg (by decide), if_pos rfl, scan, if_neg hu, h]

theorem hexDigit?_hexDigits : ∀ n < 16, hexDigit? (hexDigits.getD n '0') = some n := by decide

theorem scan_hexPair {n : Nat} (h : n < 0x20) :
    scan .plain ("\\u00".toList ++ hexPair n ++ u) =
      (scan .plain u).map fun (is, rest) => (.unit n :: is, rest) := by
  have hhigh := hexDigit?_hexDigits (n / 16 % 16) (by omega)
  have hlow := hexDigit?_hexDigits (n % 16) (by omega)
  have hzero : hexDigit? '0' = some 0 := by decide
  have hn : 16 * (16 * (16 * (16 * 0 + 0) + 0) + n / 16 % 16) + n % 16 = n := by omega
  change scan .plain ('\\' :: 'u' :: '0' :: '0' :: hexDigits.getD (n / 16 % 16) '0' ::
    hexDigits.getD (n % 16) '0' :: u) = _
  rw [scan, if_neg (by decide), if_pos rfl, scan, if_pos rfl]
  simp only [scan, hzero, hhigh, hlow, hn]
  rfl

/-- A character is read back from what stands for it. -/
theorem readString?_escapeChar (c : Char) (u : Text) :
    readString? (escapeChar c ++ u) = (readString? u).map fun (s, rest) => (c :: s, rest) := by
  unfold escapeChar
  repeat' split
  iterate 7
    · next h => exact readString?_of_scan assemble?_plain (scan_escaped (by decide) (by rw [h]; rfl))
  · next h => exact readString?_of_scan (assemble?_control h) (scan_hexPair h)
  · next hquote hbackslash _ _ _ _ _ hcontrol =>
    refine readString?_of_scan assemble?_plain ?_
    rw [List.singleton_append, scan, if_neg hquote, if_neg hbackslash, if_neg hcontrol]

/-- Every text is read back from what stands for it between quotes. -/
theorem readString?_escape (t rest : Text) : readString? (escape t ++ '"' :: rest) = some (t, rest) := by
  induction t with
  | nil => rfl
  | cons c t ih =>
    have hcons : escape (c :: t) ++ '"' :: rest = escapeChar c ++ (escape t ++ '"' :: rest) := by
      simp [escape]
    rw [hcons, readString?_escapeChar, ih]
    rfl

end

/-! ## Documents that were written -/

section
variable {n : Nat} {t rest : Text} {v : Value}

theorem skipBlanks_cons {c : Char} (h : isBlank c = true) (t : Text) :
    skipBlanks (c :: t) = skipBlanks t := by
  simp [skipBlanks, h]

@[simp] theorem skipBlanks_skipBlanks (t : Text) : skipBlanks (skipBlanks t) = skipBlanks t := by
  induction t with
  | nil => rfl
  | cons c t ih =>
    by_cases h : isBlank c = true
    · rw [skipBlanks_cons h, ih]
    · simp [skipBlanks, h]

theorem value?_blank {c : Char} (h : isBlank c = true) (t : Text) :
    value? n (c :: t) = value? n t := by
  cases n with
  | zero => rfl
  | succ n => rw [value?, skipBlanks_cons h, value?]

theorem members?_blank {c : Char} (h : isBlank c = true) (t : Text) :
    members? n (c :: t) = members? n t := by
  cases n with
  | zero => rfl
  | succ n => rw [members?, skipBlanks_cons h, members?]

theorem members?_skipBlanks (t : Text) : members? n (skipBlanks t) = members? n t := by
  cases n with
  | zero => rfl
  | succ n => rw [members?, skipBlanks_skipBlanks, members?]

theorem value?_object {ms : List (Text × Value)} (h : members? n t = some (ms, rest)) :
    value? (n + 1) ('\x7b' :: t) = some (.object ms, rest) := by
  have hopening : skipBlanks ('\x7b' :: t) = '\x7b' :: t := rfl
  rw [value?, hopening]
  simp only
  split
  · next u hclosing =>
    -- no member begins with the end of an object
    rw [← members?_skipBlanks, hclosing] at h
    cases n <;> cases h
  · rw [members?_skipBlanks, h]
    rfl

theorem value?_string (t rest : Text) : value? (n + 1) (string t ++ rest) = some (.string t, rest) := by
  have h : string t ++ rest = '"' :: (escape t ++ '"' :: rest) := by simp [string]
  rw [h, value?]
  change (readString? (escape t ++ '"' :: rest)).map _ = _
  rw [readString?_escape]
  rfl

theorem value?_null (rest : Text) : value? (n + 1) ("null" ++ rest) = some (.null, rest) := rfl

/-- A member on a line of its own, in front of `rest`. -/
def memberLine (name rest : Text) : Text := "\n  ".toList ++ (string name ++ (": ".toList ++ rest))

theorem members?_memberLine {name : Text} (hv : value? n t = some (v, rest)) :
    members? (n + 1) (memberLine name t) =
      match skipBlanks rest with
      | '\x7d' :: rest => some ([(name, v)], rest)
      | ',' :: rest => (members? n rest).map fun (ms, rest) => ((name, v) :: ms, rest)
      | _ => none := by
  have hline : memberLine name t =
      '\n' :: ' ' :: ' ' :: '"' :: (escape name ++ '"' :: ':' :: ' ' :: t) := by
    simp [memberLine, string]
  have hquote (u : Text) : skipBlanks ('"' :: u) = '"' :: u := rfl
  have hcolon (u : Text) : skipBlanks (':' :: u) = ':' :: u := rfl
  have hvalue : value? n (' ' :: t) = some (v, rest) := (value?_blank (by decide) t).trans hv
  rw [hline, members?_blank (by decide), members?_blank (by decide), members?_blank (by decide),
    members?]
  simp only [hquote, readString?_escape, hcolon, hvalue]

end

/-- A string, or the literal of none. -/
def Value.ofText? : Option Text → Value
  | none => .null
  | some t => .string t

theorem value?_stringOrNull {n : Nat} (o : Option Text) (rest : Text) :
    value? (n + 1) (stringOrNull o ++ rest) = some (.ofText? o, rest) := by
  cases o with
  | none => exact value?_null rest
  | some t => exact value?_string t rest

theorem ofTranslation_eq (t : Translation) :
    ofTranslation t = '\x7b' :: memberLine "code" (string t.code ++ ',' :: memberLine "error"
      (stringOrNull (t.error.map TranslationError.display) ++ "\n\x7d".toList)) := by
  have hopening : "\x7b\n  \"code\": ".toList =
      '\x7b' :: ("\n  ".toList ++ (string "code" ++ ": ".toList)) := by decide
  have hbetween : ",\n  \"error\": ".toList =
      ',' :: ("\n  ".toList ++ (string "error" ++ ": ".toList)) := by decide
  unfold ofTranslation memberLine
  simp only [hopening, hbetween, List.cons_append, List.append_assoc]

/-- A translation is read back from the document that it is written as. -/
theorem decode_ofTranslation (t : Translation) :
    decode (ofTranslation t) = some (.object [
      ("code".toList, .string t.code),
      ("error".toList, .ofText? (t.error.map TranslationError.display))]) := by
  generalize hdisplay : t.error.map TranslationError.display = display
  have herror (n : Nat) : members? (n + 2)
      (memberLine "error" (stringOrNull display ++ "\n\x7d".toList)) =
      some ([("error".toList, .ofText? display)], []) := by
    rw [members?_memberLine (value?_stringOrNull _ _)]
    rfl
  have hcode (n : Nat) : members? (n + 3)
      (memberLine "code" (string t.code ++ ',' :: memberLine "error"
        (stringOrNull display ++ "\n\x7d".toList))) =
      some ([("code".toList, .string t.code), ("error".toList, .ofText? display)], []) := by
    rw [members?_memberLine (value?_string _ _)]
    change (members? (n + 2) _).map _ = _
    rw [herror]
    rfl
  have hvalue (n : Nat) := value?_object (hcode n)
  rw [← hdisplay, ← ofTranslation_eq, hdisplay] at hvalue
  have hlength : 2 ≤ (ofTranslation t).length := by
    simp only [ofTranslation_eq, memberLine, List.length_cons, List.length_append]
    omega
  obtain ⟨n, hn⟩ : ∃ n, 2 * (ofTranslation t).length + 1 = n + 3 + 1 :=
    ⟨2 * (ofTranslation t).length - 3, by omega⟩
  rw [decode, hn, hvalue]
  rfl

end ThaiScript.Json
