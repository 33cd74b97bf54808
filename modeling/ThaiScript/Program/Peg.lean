import Std.Data.HashMap
import ThaiScript.Program.Tree

/-!
# Parsing expressions

A grammar gives every rule a parsing expression. An expression matches at a position of the tokens
or does not; of alternatives the first that matches counts, and behind a cut no later one is tried.
Tokens are looked at only as far as the matching needs.

A text is matched twice when it does not match: the second time with hints, which match wrong uses of
a construct and complain about them. The first complaint is the fault of the text; without one the
fault is the last token that the first matching looked at.
-/

namespace ThaiScript.Program

/-- What a token has to be. -/
inductive Expected
  | kind (k : TokenKind)
  /-- An operator or keyword. -/
  | fixed (s : String)
  /-- A name with this text. -/
  | soft (s : String)
deriving DecidableEq, Repr

def Expected.admits : Expected → Token → Bool
  | kind k, t => t.kind = k
  | fixed s, t => (t.kind = .operator || t.kind = .keyword) && t.text = s
  | soft s, t => t.kind = .name && t.text = s

/-- Parsing expressions over rules `R` and hints `H`. -/
inductive Peg (R H : Type)
  | token (e : Expected)
  | rule (r : R)
  /-- All in turn; the results are a list. -/
  | seq (ps : List (Peg R H))
  /-- All in turn; the result is that of the given place. -/
  | pick (i : Nat) (ps : List (Peg R H))
  | node (l : Label) (ps : List (Peg R H))
  | alt (ps : List (Peg R H))
  | opt (p : Peg R H)
  | many (p : Peg R H)
  | some (p : Peg R H)
  /-- One or more, separated. -/
  | sep (p : Peg R H) (separator : String)
  /-- A first operand, and steps that each take in what came before. -/
  | chain (first : Peg R H) (steps : List (Label × List (Peg R H)))
  | ahead (p : Peg R H)
  | notAhead (p : Peg R H)
  | cut
  /-- A token that has to stand here. -/
  | force (s : String)
  /-- A wrong use: when all match, the hint decides on a complaint. -/
  | hint (h : H) (ps : List (Peg R H))
  /-- Matches without hints. -/
  | plain (p : Peg R H)
deriving Inhabited

namespace Peg

variable {R H : Type}

inductive Match
  | yes (t : Tree) (pos : Nat)
  | no
  /-- No match, and no later alternative either. -/
  | stop
deriving Inhabited

/-- What a hint may look at to complain. -/
structure Scene where
  /-- The last token looked at. -/
  latest : Token
  /-- The last token of the match. -/
  lastToken : Token

/-- Why a tree that a rule matches is not taken: a cause, which is put where the reading stands or in a
place, or a fault of a text inside. -/
inductive Refusal
  | here (c : Cause)
  | place (c : Cause) (p : Span)
  | fault (f : Fault)
deriving Repr

/-- A grammar: its rules, its hints, and what else has to hold of the trees of a rule. -/
structure Grammar (R H : Type) where
  rules : R → Peg R H
  /-- How many matchings a rule counts for. -/
  levels : R → Nat
  complain : H → List Tree → Scene → Option (Cause × Span)
  refuse : R → Tree → Option Refusal

/-- How many matchings may be under way inside each other. -/
def maxLevel : Nat := 6000

structure State (R : Type) [BEq R] [Hashable R] where
  memo : Std.HashMap (R × Nat × Bool) Match
  /-- The number of tokens looked at. -/
  seen : Nat

/-- Matching either goes on or ends with a fault. -/
abbrev Matching (R : Type) [BEq R] [Hashable R] := EStateM Fault (State R)

variable [BEq R] [Hashable R]

section

variable (g : Grammar R H) (ts : TokenStream)

/-- The token at a position. Behind the last one stands what keeps the text from being cut further. -/
def look (pos : Nat) : Matching R (Option Token) := do
  modify fun s => { s with seen := max s.seen (pos + 1) }
  match ts.tokens[pos]? with
  | .some t => return .some t
  | .none =>
    match ts.stop with
    | .some e => throw e.fault
    | .none => return .none

def lineAt (pos : Nat) : Nat :=
  match ts.tokens[pos]? with
  | .some t => t.line
  | .none => (ts.tokens.back?.map Token.line).getD 1

/-- The last of the first `seen` tokens. -/
def latest (seen : Nat) : Token := ts.tokens.getD (min seen ts.tokens.size - 1) default

def scene (pos : Nat) : Matching R Scene := do
  let s ← get
  return ⟨latest ts s.seen, (ts.tokens[pos - 1]?).getD default⟩

/-- Ends with a cause that is put in a place. -/
def blame {α : Type} (cause : Cause) (place : Span) : Matching R α := do
  throw (ts.fault cause place (latest ts (← get).seen))

/-- Ends with what the grammar says against a tree. -/
def insist (r : R) (t : Tree) : Matching R Unit := do
  match g.refuse r t with
  | .none => return
  | .some (.fault f) => throw f
  | .some (.place c p) => blame ts c p
  | .some (.here c) => blame ts c (latest ts (← get).seen).span

/-- How a sequence ends. -/
inductive Sequence
  | yes (ts : List Tree) (pos : Nat)
  | no
  | stop
deriving Inhabited

mutual

/-- Matches an expression at a position. `hints` tells whether hints are tried, and `level` how many
matchings are under way. -/
def run : (fuel level : Nat) → (hints : Bool) → Peg R H → Nat → Matching R Match
  | 0, _, _, _, _ => return .no
  | fuel + 1, level, hints, p, pos =>
    match p with
    | token e => do
      match ← look ts pos with
      | .some t => return if e.admits t then .yes (.leaf t) (pos + 1) else .no
      | .none => return .no
    | rule r => do
      let level := level + g.levels r
      if maxLevel < level then throw ⟨.outOfMemory, 1, none⟩
      match (← get).memo[(r, pos, hints)]? with
      | .some m => return m
      | .none =>
        let m ← match g.rules r with
          | alt ps => runAlt fuel level hints ps pos
          | p => run fuel level hints p pos
        let m ← match m with
          | .stop => pure .no
          | .yes t next => do
            insist g ts r t
            pure (.yes t next)
          | .no => pure .no
        modify fun s => { s with memo := s.memo.insert (r, pos, hints) m }
        return m
    | seq ps => do
      match ← runSeq fuel level hints ps pos [] false with
      | .yes ts pos => return .yes (.list ts) pos
      | .no => return .no
      | .stop => return .stop
    | pick i ps => do
      match ← runSeq fuel level hints ps pos [] false with
      | .yes ts pos => return .yes (ts.getD i .absent) pos
      | .no => return .no
      | .stop => return .stop
    | node l ps => do
      match ← runSeq fuel level hints ps pos [] false with
      | .yes kids next => return .yes (.node l (lineAt ts pos) kids) next
      | .no => return .no
      | .stop => return .stop
    | alt ps => runAlt fuel (level + 1) hints ps pos
    | opt p => do
      match ← run fuel level hints p pos with
      | .yes t next => return .yes t next
      | _ => return .yes .absent pos
    | many p => runMany fuel (level + 1) hints p pos []
    | some p => do
      match ← run fuel (level + 1) hints p pos with
      | .yes t next => runMany fuel (level + 1) hints p next [t]
      | m => return m
    | sep p s => do
      match ← run fuel (level + 1) hints p pos with
      | .yes t next => runMany fuel (level + 2) hints (pick 1 [token (.fixed s), p]) next [t]
      | m => return m
    | chain first steps => do
      match ← run fuel level hints first pos with
      | .yes t next => runChain fuel level hints steps pos t next
      | m => return m
    | ahead p => do
      match ← run fuel level hints p pos with
      | .yes _ _ => return .yes .absent pos
      | _ => return .no
    | notAhead p => do
      match ← run fuel level hints p pos with
      | .yes _ _ => return .no
      | _ => return .yes .absent pos
    | cut => return .yes .absent pos
    | force s => do
      match ← look ts pos with
      | .some t =>
        if (Expected.fixed s).admits t then return .yes (.leaf t) (pos + 1)
        else blame ts (.expected s) (t.spanTo t)
      | .none => return .no
    | hint h ps => do
      if !hints then return .no
      match ← runSeq fuel level hints ps pos [] false with
      | .yes kids next =>
        match g.complain h kids (← scene ts next) with
        | .some (cause, place) => blame ts cause place
        | .none => return .stop
      | .no => return .no
      | .stop => return .stop
    | plain p => run fuel level false p pos

/-- Matches expressions in turn. `done` holds the results so far, the latest first. -/
def runSeq : (fuel level : Nat) → Bool → List (Peg R H) → Nat → (done : List Tree) → (behindCut : Bool) →
    Matching R Sequence
  | 0, _, _, _, _, _, _ => return .no
  | _ + 1, _, _, [], pos, done, _ => return .yes done.reverse pos
  | fuel + 1, level, hints, p :: ps, pos, done, behindCut => do
    match p with
    | cut => runSeq fuel level hints ps pos done true
    | ahead _ | notAhead _ =>
      match ← run fuel level hints p pos with
      | .yes _ _ => runSeq fuel level hints ps pos done behindCut
      | _ => return if behindCut then .stop else .no
    | p =>
      match ← run fuel level hints p pos with
      | .yes t pos => runSeq fuel level hints ps pos (t :: done) behindCut
      | _ => return if behindCut then .stop else .no

def runAlt : (fuel level : Nat) → Bool → List (Peg R H) → Nat → Matching R Match
  | 0, _, _, _, _ => return .no
  | _ + 1, _, _, [], _ => return .no
  | fuel + 1, level, hints, p :: ps, pos => do
    match ← run fuel level hints p pos with
    | .yes t pos => return .yes t pos
    | .no => runAlt fuel level hints ps pos
    | .stop => return .no

def runMany : (fuel level : Nat) → Bool → Peg R H → Nat → (done : List Tree) → Matching R Match
  | 0, _, _, _, _, _ => return .no
  | fuel + 1, level, hints, p, pos, done => do
    match ← run fuel level hints p pos with
    | .yes t next => runMany fuel level hints p next (t :: done)
    | _ => return .yes (.list done.reverse) pos

/-- Takes steps as long as one matches; `start` is where the whole begins. -/
def runChain : (fuel level : Nat) → Bool → List (Label × List (Peg R H)) → (start : Nat) → Tree → Nat →
    Matching R Match
  | 0, _, _, _, _, _, _ => return .no
  | fuel + 1, level, hints, steps, start, t, pos => do
    match ← runStep fuel level hints steps start t pos with
    | .yes t next => runChain fuel level hints steps start t next
    | _ => return .yes t pos

def runStep : (fuel level : Nat) → Bool → List (Label × List (Peg R H)) → (start : Nat) → Tree → Nat →
    Matching R Match
  | 0, _, _, _, _, _, _ => return .no
  | _ + 1, _, _, [], _, _, _ => return .no
  | fuel + 1, level, hints, (l, ps) :: steps, start, t, pos => do
    match ← runSeq fuel level hints ps pos [] false with
    | .yes kids next => return .yes (.node l (lineAt ts start) (t :: kids)) next
    | _ => runStep fuel level hints steps start t pos

end

/-- A fault that was found gives way to a cause that keeps the rest of the text from being cut. The
fault was found when `seen` tokens had been looked at. -/
def prevail (f : Fault) (seen : Nat) : Fault :=
  match ts.stop with
  | .none => f
  | .some stop =>
    if f.cause = .outOfMemory || ts.tokens.size < seen then f
    else if stop.prevails then stop.fault
    else match stop.innermost with
      | .some open_ => if open_.line < lineAt ts (seen - 1) then open_ else f
      | .none => f

/-- The fault of a text that no hint explains. The first `seen` tokens were looked at without hints,
and the first `seenAgain` with them. -/
def unexplained (seen seenAgain : Nat) : Fault :=
  let last := latest ts seen
  let again := latest ts seenAgain
  match last.kind with
  | .indent => ts.fault .unexpectedIndent again.span again
  | .dedent => ts.fault .unexpectedDedent again.span again
  | _ => prevail ts (ts.fault .invalid (last.spanTo last) again) seenAgain

/-- The tree of a text that matches a rule, or its fault. -/
def parse (start : R) : Except Fault Tree :=
  let fuel := (ts.tokens.size + 2) * 400
  let first : State R := ⟨{}, 0⟩
  match (run g ts fuel 0 false (.rule start)) 0 |>.run first with
  | .error f s => .error (prevail ts f s.seen)
  | .ok (.yes t _) _ => .ok t
  | .ok _ s =>
    match (run g ts fuel 0 true (.rule start)) 0 |>.run ⟨{}, s.seen⟩ with
    | .error f s => .error (prevail ts f s.seen)
    | .ok _ s' => .error (unexplained ts s.seen s'.seen)

end

end Peg

end ThaiScript.Program
