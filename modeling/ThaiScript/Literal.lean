import ThaiScript.Text.Basic

/-!
# String literals

A literal opens at a quote character. Three of them open a literal that ends with the first three
that stand together unescaped; if there is none, or only one opens, the literal ends at the first
unescaped quote character behind the opening one. A backslash escapes the character behind it,
whatever that is, and literals may span lines. A quote that no other closes is plain text.

`Layout.of` splits a text into its literals and the gaps between them.
-/

namespace ThaiScript

/-- The length of the shortest stretch that ends with an unescaped `closing`, or `none`. -/
def closingAt (closing : Text) : Text → Option Nat
  | [] => none
  | c :: t =>
    if closing.isPrefixOf (c :: t) then some closing.length
    else if c = '\\' then
      match t with
      | [] => none
      | _ :: t => (closingAt closing t).map (· + 2)
    else (closingAt closing t).map (· + 1)

/-- The length of the literal at the head of a text, when one opens there. -/
def literalLength? : Text → Option Nat
  | [] => none
  | q :: t =>
    if q = '"' ∨ q = '\'' then
      let triple := if [q, q].isPrefixOf t then (closingAt [q, q, q] (t.drop 2)).map (· + 3) else none
      triple <|> (closingAt [q] t).map (· + 1)
    else none

/-- A text as a first gap, and literals each with the gap behind it. -/
structure Layout where
  first : Text
  rest : List (Text × Text)
deriving DecidableEq, Repr

namespace Layout

/-- Puts a character in front of the first gap. -/
def cons (c : Char) (l : Layout) : Layout := ⟨c :: l.first, l.rest⟩

/-- Puts a literal in front, with an empty gap before it. -/
def consLiteral (literal : Text) (l : Layout) : Layout := ⟨[], (literal, l.first) :: l.rest⟩

/-- `skip` is the number of characters still to be dropped of a literal just read. -/
def scan : (skip : Nat) → Text → Layout
  | _, [] => ⟨[], []⟩
  | skip + 1, _ :: t => scan skip t
  | 0, c :: t =>
    match literalLength? (c :: t) with
    | some n => (scan (n - 1) t).consLiteral ((c :: t).take n)
    | none => (scan 0 t).cons c

/-- The literals of a text and the gaps between them, from the left. -/
def of (t : Text) : Layout := scan 0 t

def literals (l : Layout) : List Text := l.rest.map (·.1)

def gaps (l : Layout) : List Text := l.first :: l.rest.map (·.2)

/-- The text that a layout was read from. -/
def toText (l : Layout) : Text := l.first ++ l.rest.flatMap fun (literal, gap) => literal ++ gap

end Layout

end ThaiScript
