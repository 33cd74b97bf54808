import ThaiScript.Substitution

/-!
# Translation

A translation is the program text of a source together with the parser's objection to it, if it has
any. The text is there in either case; only a text without objection may run.
-/

namespace ThaiScript

/-- What a parser says about a text. -/
inductive Verdict
  | accepted
  | rejected (message : Text)
  /-- The parser itself could not be used. -/
  | unavailable (message : Text)
deriving DecidableEq, Repr

/-- Why a translation failed. -/
inductive TranslationError
  | malformed (message : Text)
  | noParser (message : Text)
deriving DecidableEq, Repr

namespace TranslationError

def message : TranslationError → Text
  | malformed m => m
  | noParser m => m

/-- The line that tells the user. -/
def display : TranslationError → Text
  | malformed m => "Translation error: " ++ m
  | noParser m => "Translation error: interpreter unavailable: " ++ m

def ofVerdict? : Verdict → Option TranslationError
  | .accepted => none
  | .rejected m => some (malformed m)
  | .unavailable m => some (noParser m)

end TranslationError

structure Translation where
  code : Text
  error : Option TranslationError
deriving DecidableEq, Repr

namespace Translation

def isOk (t : Translation) : Bool := t.error.isNone

/-- The program text, or the reason why there is none. -/
def result (t : Translation) : Except TranslationError Text :=
  match t.error with
  | none => .ok t.code
  | some e => .error e

/-- Translates a source and has the text judged by `parse`. -/
def of (parse : Text → Verdict) (source : Text) : Translation :=
  let code := substitute source
  ⟨code, TranslationError.ofVerdict? (parse code)⟩

end Translation

end ThaiScript
