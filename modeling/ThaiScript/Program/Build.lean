import ThaiScript.Program.Ast
import ThaiScript.Program.Grammar
import ThaiScript.Program.Identifier
import ThaiScript.Program.Lexer
import ThaiScript.Program.Quoted

/-!
# Programs from trees

The tree that the grammar makes of a text becomes a program. Strings are decoded on the way, and the
expressions in formatted strings are parsed as texts of their own.
-/

namespace ThaiScript.Program

namespace Build

def nameText (t : Token) : Text := nameOf t.text.toList

def nameOfTree : Tree → Text
  | .leaf t => nameText t
  | _ => []

/-- The constructs in a tree: lists are opened, and punctuation is left out. -/
def nodes : (fuel : Nat) → Tree → List Tree
  | 0, _ => []
  | fuel + 1, .list ts => ts.flatMap (nodes fuel)
  | _ + 1, .node l line kids => [.node l line kids]
  | _ + 1, _ => []

def parts (kids : List Tree) : List Tree := nodes 10 (.list kids)

/-- The names in a list of tokens. -/
def names (t : Tree) : List Text :=
  t.elements.filterMap fun t =>
    match t with
    | .leaf t => if t.kind = .name then some (nameText t) else none
    | _ => none

def optionName (t : Tree) : Option Text :=
  match t with
  | .leaf t => some (nameText t)
  | _ => none

/-! ### Numbers -/

def digitValue (c : Char) : Nat := (Quoted.hexValue? c).getD 0

def natOf (base : Nat) (t : Text) : Nat := t.foldl (fun n c => n * base + digitValue c) 0

def intOf (t : Text) : Int :=
  match t with
  | '-' :: t => -(natOf 10 t : Int)
  | '+' :: t => natOf 10 t
  | t => natOf 10 t

/-- The digits and the exponent of a decimal numeral. -/
def decimalOf (t : Text) : Nat × Int :=
  let mantissa := t.takeWhile fun c => c ≠ 'e' && c ≠ 'E'
  let exponent := intOf ((t.dropWhile fun c => c ≠ 'e' && c ≠ 'E').drop 1)
  let whole := mantissa.takeWhile (· ≠ '.')
  let fraction := (mantissa.dropWhile (· ≠ '.')).drop 1
  (natOf 10 (whole ++ fraction), exponent - fraction.length)

/-- The number that a token spells. -/
def numberOf (token : Text) : Except Cause Constant :=
  let t := token.filter (· ≠ '_')
  match t with
  | '0' :: 'x' :: t | '0' :: 'X' :: t => .ok (.int (natOf 16 t))
  | '0' :: 'o' :: t | '0' :: 'O' :: t => .ok (.int (natOf 8 t))
  | '0' :: 'b' :: t | '0' :: 'B' :: t => .ok (.int (natOf 2 t))
  | _ =>
    if t.any fun c => c = 'j' || c = 'J' then
      let (digits, exponent) := decimalOf t.dropLast
      .ok (.imaginary digits exponent)
    else if t.all Char.isDigit then
      if 4300 < t.length then .error (.tooManyDigits t.length) else .ok (.int (natOf 10 t))
    else
      let (digits, exponent) := decimalOf t
      .ok (.float digits exponent)

def binaryOp? : String → Option BinaryOp
  | "+" => some .add
  | "-" => some .sub
  | "*" => some .mul
  | "/" => some .div
  | "//" => some .floorDiv
  | "%" => some .mod
  | "**" => some .pow
  | "@" => some .matMul
  | "<<" => some .shiftLeft
  | ">>" => some .shiftRight
  | "&" => some .bitAnd
  | "|" => some .bitOr
  | "^" => some .bitXor
  | _ => none

/-- The operator of an augmented assignment. -/
def augmentOp (t : Tree) : BinaryOp :=
  match t with
  | .leaf t => (binaryOp? (String.ofList (t.text.toList.dropLast))).getD .add
  | _ => .add

def compareOp : List Tree → CompareOp
  | [.leaf t, _] =>
    match t.text with
    | "==" => .eq
    | "!=" => .ne
    | "<" => .lt
    | "<=" => .le
    | ">" => .gt
    | ">=" => .ge
    | "in" => .contains
    | _ => .isSame
  | .leaf t :: _ => if t.text = "not" then .notContains else .isNot
  | _ => .eq

abbrev Building := Except Peg.Refusal

/-- Refuses a tree for a cause. -/
def refuse {α : Type} (c : Cause) : Building α := .error (.here c)

def unlessRefused {α : Type} : Except Cause α → Building α
  | .ok a => .ok a
  | .error c => refuse c

/-- The value of a number; one that has too many digits is refused on its line. -/
def numberAt (line : Nat) (t : Text) : Building Constant :=
  match numberOf t with
  | .ok c => .ok c
  | .error c => .error (.place c ⟨line, 0, line, 0⟩)

def isBlank (c : Char) : Bool := c = ' ' || ('\t' ≤ c && c ≤ '\r')

/-- A construct that the tree does not give. -/
def unexpected (line : Nat) : Expr := .unsupported line "construct"

/-- The line of a token, or else the given one. -/
def lineOf (t : Tree) (line : Nat) : Nat :=
  match t with
  | .leaf t => t.line
  | _ => line

def isUnpacking : Argument → Bool
  | .unpack _ => true
  | .unpackKeywords _ => true
  | _ => false

/-- Arguments in the order in which they are evaluated: keywords come last. -/
def positionalFirst (args : List Argument) : List Argument :=
  let (keywords, positional) := args.partition fun a =>
    match a with
    | .keyword .. | .unpackKeywords _ => true
    | _ => false
  positional ++ keywords

/-- The line that a call fails on: the call of a method fails where the method is named. -/
def callLine (line : Nat) (f : Expr) (args : List Argument) : Nat :=
  match f with
  | .member l _ _ => if args.any isUnpacking then line else l
  | _ => line

/-- Joins texts that stand side by side. -/
def joinTexts : List FormatPart → List FormatPart
  | .text a :: ps =>
    match joinTexts ps with
    | .text b :: ps => .text (a ++ b) :: ps
    | ps => if a.isEmpty then ps else .text a :: ps
  | p :: ps => p :: joinTexts ps
  | [] => []

section

-- The grammar of the expressions in formatted strings.
variable (g : Peg.Grammar Rule Hint)

mutual

def expr : (fuel : Nat) → Tree → Building Expr
  | 0, _ => .ok (unexpected 1)
  | fuel + 1, t => do
    match t with
    | .node .literal line [.leaf t] =>
      match t.kind with
      | .keyword =>
        return match t.text with
          | "True" => .const (.bool true)
          | "False" => .const (.bool false)
          | _ => .const .none
      | .number =>
        return .const (← numberAt line t.text.toList)
      | _ => return .const .ellipsis
    | .node .strings line [ts] => strings fuel line ts.elements
    | .node .name line [n] => return .name line (nameOfTree n)
    | .node .group _ [_, e, _] => expr fuel e
    | .node .tupleE line kids =>
      let es ← exprs fuel (parts kids)
      return (Expr.tuple line es).sharedIf (!es.isEmpty && es.all Expr.isConstant)
    | .node .listE line kids => return .list line (← exprs fuel (parts kids))
    | .node .setE line kids => return .set line (← exprs fuel (parts kids))
    | .node .dictE line kids => return .dict line (← dictItems fuel (parts kids))
    | .node .star line [_, e] => return .star line (← expr fuel e)
    | .node .named _ [n, _, e] => return .named (nameOfTree n) (← expr fuel e)
    | .node .conditional line [a, _, c, _, b] =>
      return .conditional line (← expr fuel c) (← expr fuel a) (← expr fuel b)
    | .node .orE line kids => return .anyOf line (← exprs fuel (parts kids))
    | .node .andE line kids => return .allOf line (← exprs fuel (parts kids))
    | .node .notE line [_, e] => return .not line (← expr fuel e)
    | .node .compare line (left :: kids) =>
      return .compare line (← expr fuel left) (← comparisons fuel (parts kids))
    | .node .binary line [a, .leaf op, b] =>
      let a ← expr fuel a
      let b ← expr fuel b
      return (Expr.binary line ((binaryOp? op.text).getD .add) a b).sharedIf
        (a.isConstant && b.isConstant)
    | .node .unary line [.leaf op, e] =>
      let op := match op.text with
        | "-" => UnaryOp.minus
        | "~" => .invert
        | _ => .plus
      let e ← expr fuel e
      return (Expr.unary line op e).sharedIf e.isConstant
    | .node .member line [e, _, n] =>
      return .member (lineOf n line) (← expr fuel e) (nameOfTree n)
    | .node .generatorCall line [f, g] =>
      let f ← expr fuel f
      let args := [Argument.positional (← expr fuel g)]
      return .call (callLine line f args) f args
    | .node .call line [f, _, args, _] =>
      let f ← expr fuel f
      let args := positionalFirst (← arguments fuel (parts [args]))
      return .call (callLine line f args) f args
    | .node .subscript line [e, _, i, _] =>
      let e ← expr fuel e
      let i ← expr fuel i
      return (Expr.subscript line e i).sharedIf (e.isConstant && i.isConstant)
    | .node .sliceE _ [a, _, b, c] =>
      return .slice (← optionExpr fuel a) (← optionExpr fuel b) (← optionExpr fuel c)
    | .node .generator line [_, e, cs, _] =>
      return .comprehension line .generator none (← expr fuel e) (← clauses fuel cs.elements)
    | .node .listComp line [_, e, cs, _] =>
      return .comprehension line .list none (← expr fuel e) (← clauses fuel cs.elements)
    | .node .setComp line [_, e, cs, _] =>
      return .comprehension line .set none (← expr fuel e) (← clauses fuel cs.elements)
    | .node .dictComp line [_, .node .pair _ [k, _, v], cs, _] =>
      return .comprehension line .dict (some (← expr fuel k)) (← expr fuel v)
        (← clauses fuel cs.elements)
    | .node .lambdaE line [_, ps, _, e] =>
      return .lambda line (← params fuel false (parts [ps])) (← expr fuel e)
    | .node .yieldE line _ => return .unsupported line "yield"
    | .node .yieldFrom line _ => return .unsupported line "yield"
    | .node .awaitE line _ => return .unsupported line "await"
    | .node _ line _ => return unexpected line
    | .leaf t => return .name t.line (nameText t)
    | _ => return unexpected 1

def exprs : (fuel : Nat) → List Tree → Building (List Expr)
  | 0, _ => .ok []
  | _ + 1, [] => .ok []
  | fuel + 1, t :: ts => do return (← expr fuel t) :: (← exprs fuel ts)

def optionExpr : (fuel : Nat) → Tree → Building (Option Expr)
  | 0, _ => .ok none
  | _ + 1, .absent => .ok none
  | fuel + 1, t => do return some (← expr fuel t)

def dictItems : (fuel : Nat) → List Tree → Building (List DictItem)
  | 0, _ => .ok []
  | _ + 1, [] => .ok []
  | fuel + 1, t :: ts => do
    let item ← match t with
      | .node .pair _ [k, _, v] => do pure (DictItem.pair (← expr fuel k) (← expr fuel v))
      | .node .unpack _ [_, e] => do pure (DictItem.unpack (← expr fuel e))
      | t => do pure (DictItem.unpack (← expr fuel t))
    return item :: (← dictItems fuel ts)

def comparisons : (fuel : Nat) → List Tree → Building (List Comparison)
  | 0, _ => .ok []
  | _ + 1, [] => .ok []
  | fuel + 1, t :: ts => do
    match t with
    | .node .comparison _ kids =>
      let e ← expr fuel (kids.getLast?.getD .absent)
      return .mk (compareOp kids) e :: (← comparisons fuel ts)
    | _ => comparisons fuel ts

def arguments : (fuel : Nat) → List Tree → Building (List Argument)
  | 0, _ => .ok []
  | _ + 1, [] => .ok []
  | fuel + 1, t :: ts => do
    let a ← match t with
      | .node .star _ [_, e] => do pure (Argument.unpack (← expr fuel e))
      | .node .keywordArg _ [n, _, e] => do pure (Argument.keyword (nameOfTree n) (← expr fuel e))
      | .node .unpackArg _ [_, e] => do pure (Argument.unpackKeywords (← expr fuel e))
      | t => do pure (Argument.positional (← expr fuel t))
    return a :: (← arguments fuel ts)

def clauses : (fuel : Nat) → List Tree → Building (List Clause)
  | 0, _ => .ok []
  | _ + 1, [] => .ok []
  | fuel + 1, t :: ts => do
    match t with
    | .node .clause _ [_, target, _, iter, conds] =>
      let c := Clause.mk (← expr fuel target) (← expr fuel iter) (← exprs fuel conds.elements)
      return c :: (← clauses fuel ts)
    | .node _ line _ => return .mk (unexpected line) (unexpected line) [] :: (← clauses fuel ts)
    | _ => clauses fuel ts

/-- Parameters in order; `keywordOnly` holds behind a star. A slash makes those before it
positional. -/
def params : (fuel : Nat) → (keywordOnly : Bool) → List Tree → Building (List Param)
  | 0, _, _ => .ok []
  | _ + 1, _, [] => .ok []
  | fuel + 1, keywordOnly, t :: ts => do
    match t with
    | .node .param _ (n :: more) =>
      let (name, annotation) ← param fuel n
      let d ← optionExpr fuel (more.head?.getD .absent)
      let positional := ts.any fun t =>
        match t with
        | .node .slashParam _ _ => true
        | _ => false
      let kind : ParamKind :=
        if keywordOnly then .keywordOnly else if positional then .positionalOnly else .normal
      return .mk name kind d annotation :: (← params fuel keywordOnly ts)
    | .node .starParam _ [_, .node .param _ (n :: _)] =>
      let (name, annotation) ← param fuel n
      return .mk name .rest none annotation :: (← params fuel true ts)
    | .node .kwParam _ [_, .node .param _ (n :: _)] =>
      let (name, annotation) ← param fuel n
      return .mk name .keywords none annotation :: (← params fuel true ts)
    | .node .bareStarParam _ _ => params fuel true ts
    | _ => params fuel keywordOnly ts

/-- The name and the annotation of a parameter. -/
def param : (fuel : Nat) → Tree → Building (Text × Option Expr)
  | 0, _ => .ok ([], none)
  | fuel + 1, t => do
    match t with
    | .list [n, a] => return (nameOfTree n, ← optionExpr fuel a)
    | n => return (nameOfTree n, none)

/-- The value of string tokens that stand side by side. -/
def strings : (fuel : Nat) → (line : Nat) → List Tree → Building Expr
  | 0, line, _ => .ok (unexpected line)
  | fuel + 1, line, ts => do
    let pieces := ts.filterMap fun t =>
      match t with
      | .leaf t => some (t.line, Quoted.split t.text.toList)
      | _ => none
    let bytes := pieces.head?.any (·.2.bytes)
    let parts ← pieceParts fuel bytes pieces
    if pieces.any (·.2.formatted) then return .joined line (joinTexts parts)
    else
      let points := parts.flatMap fun p =>
        match p with
        | .text p => p
        | .value .. => []
      return .const (if bytes then .bytes points else .text points)

/-- The parts of strings, which have to be all of bytes or none. -/
def pieceParts : (fuel : Nat) → (bytes : Bool) → List (Nat × Quoted.Parts) →
    Building (List FormatPart)
  | 0, _, _ => .ok []
  | _ + 1, _, [] => .ok []
  | fuel + 1, bytes, (line, p) :: ps => do
    if p.bytes && p.body.any fun c => 0x80 ≤ c.toNat then refuse (.misuse .nonAsciiBytes)
    let text ← if p.formatted then pure []
      else unlessRefused (Quoted.decode p.raw p.bytes p.body)
    if p.bytes ≠ bytes then refuse (.misuse .mixedBytes)
    let own ← if p.formatted then do
        let (own, _) ← formatParts fuel p.raw 0 (line + p.body.count '\n') p.body
        pure own
      else pure [FormatPart.text text]
    return own ++ (← pieceParts fuel bytes ps)

/-- The parts of a formatted string, or, on a deeper level, of a format up to its closing brace. The
string ends on the line `last`. -/
def formatParts : (fuel : Nat) → (raw : Bool) → (level last : Nat) → Text →
    Building (List FormatPart × Text)
  | 0, _, _, _, t => .ok ([], t)
  | fuel + 1, raw, level, last, t => do
    let (literal, rest, doubled) := Quoted.literalPart raw (0 < level) (t.length + 1) t
    if level = 0 && !doubled && rest.head? = some '\x7d' then refuse (.misuse .loneBrace)
    let text ← unlessRefused (Quoted.decode raw false literal)
    if doubled then
      let (parts, rest) ← formatParts fuel raw level last rest
      return (.text text :: parts, rest)
    else
      match rest with
      | '\x7b' :: more =>
        if 2 ≤ level then refuse (.misuse .deepReplacement)
        let (values, rest) ← replacement fuel raw level last more
        let (parts, rest) ← formatParts fuel raw level last rest
        return (.text text :: (values ++ parts), rest)
      | rest => return ([.text text], rest)

/-- The expression of a replacement. `lines` line feeds stand in the string from here on. -/
def replaced : (fuel : Nat) → (last lines : Nat) → (source : Text) → Building Expr
  | 0, last, _, _ => .ok (unexpected last)
  | fuel + 1, last, lines, source => do
    match Peg.parse g (tokenizeFrom (last - lines - 1) true ("(" ++ source ++ ")")) .replacement with
    | .ok tree => expr fuel tree
    | .error f =>
      throw (.fault (if f.cause.isLexical || f.cause = .outOfMemory then f
        else { f with cause := .inReplacement f.cause.message }))

/-- A replacement behind its opening brace. -/
def replacement : (fuel : Nat) → (raw : Bool) → (level last : Nat) → Text →
    Building (List FormatPart × Text)
  | 0, _, _, _, t => .ok ([], t)
  | fuel + 1, raw, level, last, t => do
    let (source, rest) ← unlessRefused (Quoted.expressionText (t.length + 1) none [] t)
    if source.all fun c => c = ' ' || c = '\t' || c = '\n' || c = '\x0c' then
      match rest with
      | c :: _ => refuse (if c = '\x7d' then .misuse .emptyReplacement else .nothingReplaced c)
      | [] => refuse (.misuse .emptyReplacement)
    let e ← replaced fuel last (t.count '\n') source
    -- An equals sign shows the source of the expression before its value.
    let (shown, rest) := match rest with
      | '=' :: more =>
        let blanks := more.takeWhile isBlank
        (some (source ++ ['='] ++ blanks), more.drop blanks.length)
      | rest => (none, rest)
    let (conversion, rest) ← match rest with
      | '!' :: c :: more =>
        if c = 's' || c = 'r' || c = 'a' then pure (some c, more)
        else refuse (.misuse .badConversion)
      | ['!'] => refuse (.misuse .unclosedReplacement)
      | rest => pure (none, rest)
    let (spec, rest, hasSpec) ← match rest with
      | ':' :: more => do
        let (spec, rest) ← formatParts fuel raw (level + 1) last more
        pure (joinTexts spec, rest, true)
      | rest => pure ([], rest, false)
    match rest with
    | '\x7d' :: rest =>
      let conversion := if shown.isSome && conversion = none && !hasSpec then some 'r' else conversion
      let value := FormatPart.value e conversion spec
      match shown with
      | some s => return ([.text s.points, value], rest)
      | none => return ([value], rest)
    | _ => refuse (.misuse .unclosedReplacement)

end

/-! ### Statements -/

def importedModule (t : Tree) : Option (List Text × Option Text) :=
  match t with
  | .node .alias _ [n, a] => some (names n, optionName a)
  | _ => none

def importedName (t : Tree) : Option (Text × Option Text) :=
  match t with
  | .node .alias _ [n, a] => some (nameOfTree n, optionName a)
  | _ => none

/-- The number of dots before the module of an import. -/
def dotCount (t : Tree) : Nat :=
  (t.elements.map fun t =>
    match t with
    | .leaf t => t.text.length
    | _ => 0).sum

def importNames (t : Tree) : Option (List (Text × Option Text)) :=
  match t with
  | .leaf _ => none
  | t => some (t.elements.filterMap importedName)

mutual

def stmt : (fuel : Nat) → Tree → Building Stmt
  | 0, _ => .ok .pass
  | fuel + 1, t => do
    match t with
    | .node .exprStmt line [e] => return .expr line (← expr g fuel e)
    | .node .assign line [targets, value] =>
      return .assign line (← exprs g fuel targets.elements) (← expr g fuel value)
    | .node .annAssign line [target, _, annotation, value] =>
      return .annotate line (← expr g fuel target) (← expr g fuel annotation) (← optionExpr g fuel value)
    | .node .augAssign line [target, op, value] =>
      return .augment line (← expr g fuel target) (augmentOp op) (← expr g fuel value)
    | .node .returnStmt line [_, e] => return .ret line (← optionExpr g fuel e)
    | .node .raiseStmt line [_] => return .raise line none none
    | .node .raiseStmt line [_, e, cause] =>
      return .raise line (← optionExpr g fuel e) (← optionExpr g fuel cause)
    | .node .globalStmt line [_, ns] => return .global line (names ns)
    | .node .nonlocalStmt line [_, ns] => return .nonlocal line (names ns)
    | .node .delStmt line [_, targets] => return .del line (← exprs g fuel targets.elements)
    | .node .assertStmt line [_, e, m] =>
      return .assert line (← expr g fuel e) (← optionExpr g fuel m)
    | .node .importStmt line [_, modules] =>
      return .import_ line (modules.elements.filterMap importedModule)
    | .node .importFrom line [_, dots, module, _, targets] =>
      return .importFrom line (dotCount dots) (names module) (importNames targets)
    | .node .importFrom line [_, dots, _, targets] =>
      return .importFrom line (dotCount dots) [] (importNames targets)
    | .node .passStmt _ _ => return .pass
    | .node .breakStmt line _ => return .break_ line
    | .node .continueStmt line _ => return .continue_ line
    | .node .ifStmt _ [_, test, _, body, orelse] =>
      return .if_ (← expr g fuel test) (← block fuel body) (← block fuel orelse)
    | .node .whileStmt line [_, test, _, body, orelse] =>
      return .while_ line (← expr g fuel test) (← block fuel body) (← block fuel orelse)
    | .node .forStmt line [_, target, _, iter, _, body, orelse] =>
      return .for_ line (← expr g fuel target) (← expr g fuel iter) (← block fuel body)
        (← block fuel orelse)
    | .node .withStmt line [_, items, _, body] =>
      return .with_ line (← withItems fuel items.elements) (← block fuel body)
    | .node .tryStmt line [_, _, body, final] =>
      return .try_ line (← block fuel body) [] [] (← block fuel final)
    | .node .tryStmt line [_, _, body, hs, orelse, final] =>
      return .try_ line (← block fuel body) (← handlers fuel hs.elements) (← block fuel orelse)
        (← block fuel final)
    | .node .funcDef _ _ => definition fuel [] t
    | .node .classDef _ _ => definition fuel [] t
    | .node .decorated _ [decorators, t] =>
      let ds := decorators.elements
      definition fuel ((ds.map fun d => (Grammar.lineOf? d).getD 1).zip (← exprs g fuel ds)) t
    | .node .asyncStmt line _ => return .unsupported line "async"
    | .node .matchStmt line _ => return .unsupported line "match"
    | .node .starTry line _ => return .unsupported line "except*"
    | .node _ line _ => return .unsupported line "construct"
    | _ => return .pass

def definition : (fuel : Nat) → List (Nat × Expr) → Tree → Building Stmt
  | 0, _, _ => .ok .pass
  | fuel + 1, decorators, t => do
    match t with
    | .node .funcDef line [_, n, _, ps, _, returns, _, body] =>
      return .function line decorators (nameOfTree n) (← params g fuel false (parts [ps]))
        (← optionExpr g fuel returns) (← block fuel body)
    | .node .classDef line [_, n, args, _, body] =>
      return .class_ line decorators (nameOfTree n) (positionalFirst (← arguments g fuel (parts [args])))
        (← block fuel body)
    | .node _ line _ => return .unsupported line "definition"
    | _ => return .pass

/-- The statements of a block, or none where there is no block. An `elif` is a block of its own. -/
def block : (fuel : Nat) → Tree → Building (List Stmt)
  | 0, _ => .ok []
  | fuel + 1, t => stmts fuel (nodes 10 t)

def stmts : (fuel : Nat) → List Tree → Building (List Stmt)
  | 0, _ => .ok []
  | _ + 1, [] => .ok []
  | fuel + 1, t :: ts => do return (← stmt fuel t) :: (← stmts fuel ts)

def withItems : (fuel : Nat) → List Tree → Building (List (Expr × Option Expr))
  | 0, _ => .ok []
  | _ + 1, [] => .ok []
  | fuel + 1, t :: ts => do
    match t with
    | .node .withItem _ (e :: more) =>
      let target ← optionExpr g fuel (more.head?.getD .absent)
      return (← expr g fuel e, target) :: (← withItems fuel ts)
    | _ => withItems fuel ts

def handlers : (fuel : Nat) → List Tree → Building (List Handler)
  | 0, _ => .ok []
  | _ + 1, [] => .ok []
  | fuel + 1, t :: ts => do
    match t with
    | .node .handler line [_, type, n, _, body] =>
      let h := Handler.mk line (← optionExpr g fuel type) (optionName n) (← block fuel body)
      return h :: (← handlers fuel ts)
    | .node .handler line [_, _, body] =>
      return .mk line none none (← block fuel body) :: (← handlers fuel ts)
    | _ => handlers fuel ts

end

end

/-- The depth to which formatted strings may stand in each other: each needs other quotes. -/
def depth : Nat := 5

def grammarOf (refuse : Rule → Tree → Option Peg.Refusal) : Peg.Grammar Rule Hint :=
  ⟨Grammar.rules, Grammar.levels, Grammar.complain, refuse⟩

def refusal? {α : Type} : Building α → Option Peg.Refusal
  | .ok _ => none
  | .error e => some e

/-- What is said against numbers and strings, as soon as they are read. -/
def refuseAt : (depth : Nat) → Rule → Tree → Option Peg.Refusal
  | 0, _, _ => none
  | depth + 1, r, t =>
    match r, t with
    | .atom, .node .literal line [.leaf t] =>
      if t.kind = .number then refusal? (numberAt line t.text.toList) else none
    | .strings, .node .strings line [ts] =>
      let size := (ts.elements.map fun t =>
        match t with
        | .leaf t => t.text.length
        | _ => 0).sum
      refusal? (strings (grammarOf (refuseAt depth)) (20 * size + 1000) line ts.elements)
    | _, _ => none

end Build

/-- The program that a text spells, or its fault. -/
def parse (t : Text) : Except Fault (List Stmt) :=
  if '\x00' ∈ t then .error ⟨.misuse .nulCharacter, 1, none⟩
  else
    match Peg.parse (Build.grammarOf (Build.refuseAt Build.depth)) (tokenize t) .file with
    | .error f => .error f
    | .ok tree =>
      -- Nothing is refused any more, because it would have been refused before.
      match Build.block (Build.grammarOf fun _ _ => none) (20 * t.length + 1000) tree with
      | .ok program => .ok program
      | .error (.here c) => .error ⟨c, 1, none⟩
      | .error (.place c p) => .error ⟨c, p.line, none⟩
      | .error (.fault f) => .error f

end ThaiScript.Program
