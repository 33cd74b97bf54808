import ThaiScript.Lexicon
import ThaiScript.Shield
import ThaiScript.Text.WordChar

/-!
# Substitution

A source becomes a program in four passes: its literals are shielded, keywords that stand alone are
replaced, operator words are replaced wherever they stand, and the literals are put back.
-/

namespace ThaiScript

/-- Replaces the keywords, each over the whole text, where they stand alone. -/
def applyKeywords (t : Text) : Text :=
  (Lexicon.longestFirst Lexicon.keywords).foldl (fun t (w, new) => Text.replaceWhole w new t) t

/-- Replaces the operator words, each over the whole text, wherever they occur. -/
def applyOperators (t : Text) : Text :=
  (Lexicon.longestFirst Lexicon.operators).foldl (fun t (w, new) => Text.replaceAll w new t) t

def applyLexicon (t : Text) : Text := applyOperators (applyKeywords t)

/-- The program text of a source. -/
def substitute (source : Text) : Text :=
  let s := Shielded.of source
  restore s.table (applyLexicon s.text)

end ThaiScript
