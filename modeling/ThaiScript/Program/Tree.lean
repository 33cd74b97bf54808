import ThaiScript.Program.Token

/-!
# Trees

What the grammar makes of a stretch of tokens: a token, a labelled construct with the line of its
first token, a list, or nothing where something could have stood.
-/

namespace ThaiScript.Program

/-- The constructs of the language. -/
inductive Label
  -- statements
  | exprStmt | assign | annAssign | augAssign | returnStmt | raiseStmt | globalStmt | nonlocalStmt
  | delStmt | assertStmt | importStmt | importFrom | alias | passStmt | breakStmt | continueStmt
  | ifStmt | whileStmt | forStmt | withStmt | withItem | tryStmt | starTry | handler | funcDef
  | classDef | decorated | asyncStmt | matchStmt
  -- expressions
  | literal | strings | name | tupleE | listE | setE | dictE | pair | unpack | group | star | yieldE
  | yieldFrom | awaitE | named | conditional | orE | andE | notE | compare | comparison | binary
  | unary | member | call | generatorCall | subscript | sliceE | generator | listComp | setComp
  | dictComp | clause | lambdaE | keywordArg | unpackArg
  -- parameters
  | param | starParam | kwParam | slashParam | bareStarParam
  | pattern
deriving DecidableEq, Repr, Inhabited

inductive Tree
  | leaf (t : Token)
  | node (label : Label) (line : Nat) (kids : List Tree)
  | list (ts : List Tree)
  | absent
deriving Repr, Inhabited

namespace Tree

/-- The elements of a list; anything else is a list of its own, and nothing is none. -/
def elements : Tree → List Tree
  | list ts => ts
  | absent => []
  | t => [t]

/-- An expression without the parentheses around it. -/
def bare : Tree → Tree
  | node .group _ [_, t, _] => bare t
  | t => t

mutual

def firstToken? : Tree → Option Token
  | leaf t => some t
  | node _ _ kids => firstOf kids
  | list ts => firstOf ts
  | absent => none

def firstOf : List Tree → Option Token
  | [] => none
  | t :: ts =>
    match firstToken? t with
    | some u => some u
    | none => firstOf ts

end

mutual

def lastToken? : Tree → Option Token
  | leaf t => some t
  | node _ _ kids => lastOf kids
  | list ts => lastOf ts
  | absent => none

def lastOf : List Tree → Option Token
  | [] => none
  | t :: ts =>
    match lastOf ts with
    | some u => some u
    | none => lastToken? t

end

/-- The kind of an expression, as messages name it. -/
def describe : Tree → String
  | leaf t => ofToken t
  | node l _ kids =>
    match l with
    | .literal =>
      match kids with
      | [leaf t] => ofToken t
      | _ => "literal"
    | .member => "attribute"
    | .subscript => "subscript"
    | .star => "starred"
    | .name => "name"
    | .listE => "list"
    | .tupleE => "tuple"
    | .lambdaE => "lambda"
    | .call | .generatorCall => "function call"
    | .orE | .andE | .notE | .binary | .unary => "expression"
    | .generator => "generator expression"
    | .yieldE | .yieldFrom => "yield expression"
    | .awaitE => "await expression"
    | .listComp => "list comprehension"
    | .setComp => "set comprehension"
    | .dictComp => "dict comprehension"
    | .dictE => "dict literal"
    | .setE => "set display"
    | .strings =>
      let formatted (t : Tree) : Bool := match t with
        | leaf t => (t.text.toList.takeWhile fun c => c ≠ '"' && c ≠ '\'').any fun c =>
            c = 'f' || c = 'F'
        | _ => false
      let pieces := match kids with
        | [list ts] => ts
        | ts => ts
      if pieces.any formatted then "f-string expression" else "literal"
    | .compare => "comparison"
    | .conditional => "conditional expression"
    | .named => "named expression"
    | _ => "literal"
  | list _ => "tuple"
  | absent => "literal"
where
  ofToken (t : Token) : String :=
    match t.kind with
    | .keyword => t.text
    | .name => "name"
    | .operator => "ellipsis"
    | _ => "literal"

end Tree

end ThaiScript.Program
