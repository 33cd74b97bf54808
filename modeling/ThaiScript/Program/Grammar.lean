import ThaiScript.Program.Peg

/-!
# The grammar

The rules of the language as parsing expressions. Rules whose names end in `Misuse` match wrong uses
of a construct; they only count when a text is matched with hints.
-/

namespace ThaiScript.Program

inductive Rule
  | file | statements | statement | simpleStmts | simpleStmt | compoundStmt
  | assignment | annotatedRhs | augAssign | returnStmt | raiseStmt | globalStmt | nonlocalStmt
  | delStmt | yieldStmt | assertStmt | importStmt | importName | importFrom | importTargets
  | importAsNames | importAsName | dottedAsNames | dottedAsName | dottedName
  | block | decorators | classDef | classRaw | functionDef | functionRaw
  | params | parameters | slashNoDefault | slashWithDefault | starEtc | kwds | paramNoDefault
  | paramNoDefaultStar | paramWithDefault | paramMaybeDefault | param | paramStar | defaultValue
  | ifStmt | elifStmt | elseBlock | whileStmt | forStmt | withStmt | withItem | tryStmt
  | exceptBlock | exceptStarBlock | finallyBlock
  | matchStmt | subject | caseBlock | caseGuard | patterns | pattern | asPattern | orPattern
  | closedPattern | literalPattern | literalExpr | complexNumber | signedNumber | signedReal
  | captureTarget | wildcard | valuePattern | attr | groupPattern | sequencePattern
  | openSequence | maybeSequence | maybeStar | starPattern | mappingPattern | itemsPattern
  | keyValuePattern | doubleStarPattern | classPattern | positionalPatterns | keywordPatterns
  | keywordPattern
  | expressions | expression | yieldExpr | starExpressions | starExpression
  | starNamedExpressions | starNamedExpression | assignmentExpression | namedExpression
  | disjunction | conjunction | inversion | comparison | comparePair | bitwiseOr | bitwiseXor
  | bitwiseAnd | shiftExpr | sum | term | factor | power | awaitPrimary | primary | slices | slice
  | atom | group | lambdaDef | lambdaParams | lambdaParameters | lambdaSlashNoDefault
  | lambdaSlashWithDefault | lambdaStarEtc | lambdaKwds | lambdaNoDefault | lambdaWithDefault
  | lambdaMaybeDefault | lambdaParam | strings | list | tuple | setDisplay | dict | kvPairs | kvPairOrStar
  | kvPair | forIfClauses | forIfClause | listComp | setComp | generator | dictComp | arguments
  | args | kwargs | starredExpression | kwargOrStarred | kwargOrDoubleStarred
  | starTargets | starTargetsList | starTargetsTuple | starTarget | targetWithStar | starAtom
  | singleTarget | singleSubscriptOrAttribute | tPrimary | tLookahead | delTargets | delTarget
  | delAtom
  | argumentsMisuse | kwargMisuse | plainExpression | legacyMisuse | expressionMisuse
  | namedMisuse | assignmentMisuse | annotatedMisuse | delMisuse | blockMisuse
  | comprehensionMisuse | dictComprehensionMisuse | parametersMisuse | parametersHelper
  | defaultMisuse | starEtcMisuse | kwdsMisuse | lambdaParametersMisuse | lambdaParametersHelper
  | lambdaStarEtcMisuse | lambdaKwdsMisuse | withItemMisuse | forTargetMisuse | groupMisuse
  | importMisuse | withMisuse | withIndentMisuse | tryMisuse | exceptMisuse | finallyMisuse
  | exceptIndentMisuse | exceptStarIndentMisuse | matchMisuse | caseMisuse | asPatternMisuse
  | classPatternMisuse | classArgumentMisuse | ifMisuse | elifMisuse | elseMisuse | whileMisuse
  | forMisuse | defMisuse | classMisuse | kvPairsMisuse | kvPairMisuse
  | replacement
deriving DecidableEq, Hashable, Repr

/-- What a matched misuse complains about; see `Hint.complain`. -/
inductive Hint
  /-- A misuse that is reported where its expression at the place is. -/
  | at_ (i : Nat) (m : Misuse)
  /-- A misuse that is reported from the expression at a place to that at another. -/
  | range (i j : Nat) (m : Misuse)
  /-- A misuse that is reported from a place up to where the reading stands. -/
  | from_ (i : Nat) (m : Misuse)
  /-- A misuse that is reported at the last token looked at. -/
  | last (m : Misuse)
  | expectedColon
  /-- A block is missing behind the construct that begins at the place. -/
  | missingBlock (i : Nat) (behind : String)
  | missingAnyBlock
  | missingHandler
  | legacyCall
  | comma
  /-- An equals sign; the misuse ends at the place. -/
  | equals (i : Nat)
  | keywordTarget
  | walrus
  | assignHere
  | annotated
  | augmented
  | starTarget (i : Nat)
  | forTarget (i : Nat)
  | delTarget (i : Nat)
  | generatorInCall
  | generatorBehind
  | positionalBehind
  | missingColonBehind
deriving DecidableEq, Repr

namespace Grammar

abbrev Parsing := Peg Rule Hint

/-- In the grammar a word stands for itself: a keyword or an operator. -/
instance : Coe String Parsing := ⟨fun s => .token (.fixed s)⟩

instance : Coe Rule Parsing := ⟨.rule⟩

def name : Parsing := .token (.kind .name)
def number : Parsing := .token (.kind .number)
def string : Parsing := .token (.kind .string)
def newline : Parsing := .token (.kind .newline)
def indent : Parsing := .token (.kind .indent)
def dedent : Parsing := .token (.kind .dedent)
def endmarker : Parsing := .token (.kind .endmarker)
def soft (s : String) : Parsing := .token (.soft s)
def softKeyword : Parsing := .alt [soft "match", soft "case", soft "_"]

open Peg (seq pick node alt opt many sep chain ahead notAhead cut force hint plain)

section

open Rule

/-- A rule whose alternatives are operators between two operands, grouped from the left. -/
def infixed (operand : Parsing) (ops : List String) : Parsing :=
  chain operand (ops.map fun (op : String) => (.binary, [.token (.fixed op), operand]))

/-- One operand, or more of them around a word. -/
def joined (l : Label) (operand : Parsing) (word : String) : Parsing :=
  alt [node l [operand, .some (pick 1 [word, operand])], operand]

/-- `p` before a closing token that it does not take, or before a comma that it does. -/
def beforeEnd (p : List Parsing) (l : Label) (close : String) : Parsing :=
  alt [pick 0 [node l p, ","], pick 0 [node l p, ahead close]]

def optAsync : Parsing := opt "async"

def asName : Parsing := opt (pick 1 ["as", name])

/-- The parameters of a function or of a lambda, which differ in the rules below them. -/
def parameterList (noDefault withDefault slashNo slashWith star : Rule) : Parsing := alt [
  seq [slashNo, many noDefault, many withDefault, opt star],
  seq [slashWith, many withDefault, opt star],
  seq [.some noDefault, many withDefault, opt star],
  seq [.some withDefault, opt star],
  seq [star]]

def slashNo (noDefault : Rule) (close : String) : Parsing := alt [
  seq [.some noDefault, node .slashParam ["/", ","]],
  seq [.some noDefault, node .slashParam ["/", ahead close]]]

def slashWith (noDefault withDefault : Rule) (close : String) : Parsing := alt [
  seq [many noDefault, .some withDefault, node .slashParam ["/", ","]],
  seq [many noDefault, .some withDefault, node .slashParam ["/", ahead close]]]

def statementRule : Rule → Option Parsing
  | file => some (pick 0 [opt statements, endmarker])
  | statements => some (.some statement)
  | statement => some (alt [compoundStmt, simpleStmts])
  | simpleStmts => some (alt [
      pick 0 [simpleStmt, notAhead ";", newline],
      pick 0 [sep simpleStmt ";", opt ";", newline]])
  | simpleStmt => some (alt [
      assignment,
      node .exprStmt [starExpressions],
      pick 0 [ahead "return", returnStmt],
      pick 0 [ahead (alt ["import", "from"]), importStmt],
      pick 0 [ahead "raise", raiseStmt],
      node .passStmt ["pass"],
      pick 0 [ahead "del", delStmt],
      pick 0 [ahead "yield", yieldStmt],
      pick 0 [ahead "assert", assertStmt],
      node .breakStmt ["break"],
      node .continueStmt ["continue"],
      pick 0 [ahead "global", globalStmt],
      pick 0 [ahead "nonlocal", nonlocalStmt]])
  | compoundStmt => some (alt [
      pick 0 [ahead (alt ["def", "@", "async"]), functionDef],
      pick 0 [ahead "if", ifStmt],
      pick 0 [ahead (alt ["class", "@"]), classDef],
      pick 0 [ahead (alt ["with", "async"]), withStmt],
      pick 0 [ahead (alt ["for", "async"]), forStmt],
      pick 0 [ahead "try", tryStmt],
      pick 0 [ahead "while", whileStmt],
      matchStmt])
  | assignment => some (alt [
      node .annAssign [name, ":", expression, opt (pick 1 ["=", annotatedRhs])],
      node .annAssign [
        alt [pick 1 ["(", singleTarget, ")"], singleSubscriptOrAttribute], ":", expression,
        opt (pick 1 ["=", annotatedRhs])],
      node .assign [
        .some (pick 0 [starTargets, "="]), alt [yieldExpr, starExpressions], notAhead "="],
      node .augAssign [singleTarget, augAssign, cut, alt [yieldExpr, starExpressions]],
      assignmentMisuse])
  | annotatedRhs => some (alt [yieldExpr, starExpressions])
  | augAssign => some (alt [
      "+=", "-=", "*=", "@=", "/=", "%=", "&=", "|=", "^=", "<<=", ">>=", "**=", "//="])
  | returnStmt => some (node .returnStmt ["return", opt starExpressions])
  | raiseStmt => some (alt [
      node .raiseStmt ["raise", expression, opt (pick 1 ["from", expression])],
      node .raiseStmt ["raise"]])
  | globalStmt => some (node .globalStmt ["global", sep name ","])
  | nonlocalStmt => some (node .nonlocalStmt ["nonlocal", sep name ","])
  | delStmt => some (alt [
      node .delStmt ["del", delTargets, ahead (alt [";", newline])],
      delMisuse])
  | yieldStmt => some (node .exprStmt [yieldExpr])
  | assertStmt => some (node .assertStmt ["assert", expression, opt (pick 1 [",", expression])])
  | importStmt => some (alt [importName, importFrom])
  | importName => some (node .importStmt ["import", dottedAsNames])
  | importFrom => some (alt [
      node .importFrom ["from", many (alt [".", "..."]), dottedName, "import", importTargets],
      node .importFrom ["from", .some (alt [".", "..."]), "import", importTargets]])
  | importTargets => some (alt [
      pick 1 ["(", importAsNames, opt ",", ")"],
      pick 0 [importAsNames, notAhead ","],
      "*",
      importMisuse])
  | importAsNames => some (sep importAsName ",")
  | importAsName => some (node .alias [name, asName])
  | dottedAsNames => some (sep dottedAsName ",")
  | dottedAsName => some (node .alias [dottedName, asName])
  | dottedName => some (sep name ".")
  | block => some (alt [
      pick 2 [newline, indent, statements, dedent],
      simpleStmts,
      blockMisuse])
  | decorators => some (.some (pick 1 ["@", namedExpression, newline]))
  | classDef => some (alt [node .decorated [decorators, classRaw], classRaw])
  | classRaw => some (alt [
      classMisuse,
      node .classDef ["class", name, opt (pick 1 ["(", opt arguments, ")"]), ":", block]])
  | functionDef => some (alt [node .decorated [decorators, functionRaw], functionRaw])
  | functionRaw => some (alt [
      defMisuse,
      node .funcDef [
        "def", name, force "(", opt params, ")", opt (pick 1 ["->", expression]), force ":", block],
      node .asyncStmt [
        "async", "def", name, force "(", opt params, ")", opt (pick 1 ["->", expression]),
        force ":", block]])
  | params => some (alt [parametersMisuse, parameters])
  | parameters => some (parameterList paramNoDefault paramWithDefault slashNoDefault slashWithDefault starEtc)
  | slashNoDefault => some (slashNo paramNoDefault ")")
  | slashWithDefault => some (slashWith paramNoDefault paramWithDefault ")")
  | starEtc => some (alt [
      starEtcMisuse,
      seq [node .starParam ["*", paramNoDefault], many paramMaybeDefault, opt kwds],
      seq [node .starParam ["*", paramNoDefaultStar], many paramMaybeDefault, opt kwds],
      seq [node .bareStarParam ["*", ","], .some paramMaybeDefault, opt kwds],
      kwds])
  | kwds => some (alt [kwdsMisuse, node .kwParam ["**", paramNoDefault]])
  | paramNoDefault => some (beforeEnd [param] .param ")")
  | paramNoDefaultStar => some (beforeEnd [paramStar] .param ")")
  | paramWithDefault => some (beforeEnd [param, defaultValue] .param ")")
  | paramMaybeDefault => some (beforeEnd [param, opt defaultValue] .param ")")
  | param => some (seq [name, opt (pick 1 [":", expression])])
  | paramStar => some (seq [name, pick 1 [":", starExpression]])
  | defaultValue => some (alt [pick 1 ["=", expression], defaultMisuse])
  | ifStmt => some (alt [
      ifMisuse,
      node .ifStmt ["if", namedExpression, ":", block, elifStmt],
      node .ifStmt ["if", namedExpression, ":", block, opt elseBlock]])
  | elifStmt => some (alt [
      elifMisuse,
      node .ifStmt ["elif", namedExpression, ":", block, elifStmt],
      node .ifStmt ["elif", namedExpression, ":", block, opt elseBlock]])
  | elseBlock => some (alt [elseMisuse, pick 2 ["else", force ":", block]])
  | whileStmt => some (alt [
      whileMisuse,
      node .whileStmt ["while", namedExpression, ":", block, opt elseBlock]])
  | forStmt => some (alt [
      forMisuse,
      node .forStmt ["for", starTargets, "in", cut, starExpressions, ":", block, opt elseBlock],
      node .asyncStmt [
        "async", "for", starTargets, "in", cut, starExpressions, ":", block, opt elseBlock],
      forTargetMisuse])
  | withStmt => some (alt [
      withIndentMisuse,
      node .withStmt ["with", pick 1 ["(", sep withItem ",", opt ",", ")"], ":", block],
      node .withStmt ["with", sep withItem ",", ":", block],
      node .asyncStmt ["async", "with", pick 1 ["(", sep withItem ",", opt ",", ")"], ":", block],
      node .asyncStmt ["async", "with", sep withItem ",", ":", block],
      withMisuse])
  | withItem => some (alt [
      node .withItem [expression, pick 1 ["as", starTarget], ahead (alt [",", ")", ":"])],
      withItemMisuse,
      node .withItem [expression]])
  | tryStmt => some (alt [
      tryMisuse,
      node .tryStmt ["try", force ":", block, finallyBlock],
      node .tryStmt [
        "try", force ":", block, .some exceptBlock, opt elseBlock, opt finallyBlock],
      node .starTry [
        "try", force ":", block, .some exceptStarBlock, opt elseBlock, opt finallyBlock]])
  | exceptBlock => some (alt [
      exceptIndentMisuse,
      node .handler ["except", expression, asName, ":", block],
      node .handler ["except", ":", block],
      exceptMisuse])
  | exceptStarBlock => some (alt [
      exceptStarIndentMisuse,
      node .handler ["except", pick 1 ["*", expression], asName, ":", block],
      exceptMisuse])
  | finallyBlock => some (alt [finallyMisuse, pick 2 ["finally", force ":", block]])
  | _ => none

def patternRule : Rule → Option Parsing
  | matchStmt => some (alt [
      node .matchStmt [soft "match", subject, ":", newline, indent, .some caseBlock, dedent],
      matchMisuse])
  | subject => some (alt [
      node .tupleE [starNamedExpression, ",", opt starNamedExpressions],
      namedExpression])
  | caseBlock => some (alt [
      caseMisuse,
      node .pattern [soft "case", patterns, opt caseGuard, ":", block]])
  | caseGuard => some (pick 1 ["if", namedExpression])
  | patterns => some (alt [node .pattern [openSequence], pattern])
  | pattern => some (alt [asPattern, orPattern])
  | asPattern => some (alt [node .pattern [orPattern, "as", captureTarget], asPatternMisuse])
  | orPattern => some (sep closedPattern "|")
  | closedPattern => some (alt [
      literalPattern, captureTarget, wildcard, valuePattern, groupPattern, sequencePattern,
      mappingPattern, classPattern])
  | literalPattern => some (alt [
      pick 0 [signedNumber, notAhead (alt ["+", "-"])], complexNumber, strings, "None", "True",
      "False"])
  | literalExpr => some (alt [
      pick 0 [signedNumber, notAhead (alt ["+", "-"])], complexNumber, strings, "None", "True",
      "False"])
  | complexNumber => some (seq [signedReal, alt ["+", "-"], number])
  | signedNumber => some (alt [number, seq ["-", number]])
  | signedReal => some (alt [number, seq ["-", number]])
  | captureTarget => some (pick 0 [notAhead (soft "_"), name, notAhead (alt [".", "(", "="])])
  | wildcard => some (soft "_")
  | valuePattern => some (pick 0 [attr, notAhead (alt [".", "(", "="])])
  | attr => some (chain (node .pattern [name, ".", name]) [(.member, [".", name])])
  | groupPattern => some (pick 1 ["(", pattern, ")"])
  | sequencePattern => some (alt [
      node .pattern ["[", opt maybeSequence, "]"],
      node .pattern ["(", opt openSequence, ")"]])
  | openSequence => some (seq [maybeStar, ",", opt maybeSequence])
  | maybeSequence => some (pick 0 [sep maybeStar ",", opt ","])
  | maybeStar => some (alt [starPattern, pattern])
  | starPattern => some (alt [node .pattern ["*", captureTarget], node .pattern ["*", wildcard]])
  | mappingPattern => some (alt [
      node .pattern ["\x7b", "\x7d"],
      node .pattern ["\x7b", doubleStarPattern, opt ",", "\x7d"],
      node .pattern ["\x7b", itemsPattern, ",", doubleStarPattern, opt ",", "\x7d"],
      node .pattern ["\x7b", itemsPattern, opt ",", "\x7d"]])
  | itemsPattern => some (sep keyValuePattern ",")
  | keyValuePattern => some (seq [alt [literalExpr, attr], ":", pattern])
  | doubleStarPattern => some (seq ["**", captureTarget])
  | classPattern => some (alt [
      node .pattern [alt [attr, name], "(", ")"],
      node .pattern [alt [attr, name], "(", positionalPatterns, opt ",", ")"],
      node .pattern [alt [attr, name], "(", keywordPatterns, opt ",", ")"],
      node .pattern [
        alt [attr, name], "(", positionalPatterns, ",", keywordPatterns, opt ",", ")"],
      classPatternMisuse])
  | positionalPatterns => some (sep pattern ",")
  | keywordPatterns => some (sep keywordPattern ",")
  | keywordPattern => some (seq [name, "=", pattern])
  | _ => none

/-- Items with commas between them: several, or one with a comma behind it, make a tuple. -/
def tupled (p : Parsing) : Parsing := alt [
  node .tupleE [p, .some (pick 1 [",", p]), opt ","],
  node .tupleE [p, ","],
  p]

def clauseBehind (word : List Parsing) : Parsing :=
  node .clause (word ++ ([
    "for", starTargets, "in", cut, disjunction, many (pick 1 ["if", disjunction])] : List Parsing))

def expressionRule : Rule → Option Parsing
  | expressions => some (tupled expression)
  | expression => some (alt [
      expressionMisuse,
      legacyMisuse,
      node .conditional [disjunction, "if", disjunction, "else", expression],
      disjunction,
      lambdaDef])
  | yieldExpr => some (alt [
      node .yieldFrom ["yield", "from", expression],
      node .yieldE ["yield", opt starExpressions]])
  | starExpressions => some (tupled starExpression)
  | starExpression => some (alt [node .star ["*", bitwiseOr], expression])
  | starNamedExpressions => some (pick 0 [sep starNamedExpression ",", opt ","])
  | starNamedExpression => some (alt [node .star ["*", bitwiseOr], namedExpression])
  | assignmentExpression => some (node .named [name, ":=", cut, expression])
  | namedExpression => some (alt [
      assignmentExpression,
      namedMisuse,
      pick 0 [expression, notAhead ":="]])
  | disjunction => some (joined .orE conjunction "or")
  | conjunction => some (joined .andE inversion "and")
  | inversion => some (alt [node .notE ["not", inversion], comparison])
  | comparison => some (alt [node .compare [bitwiseOr, .some comparePair], bitwiseOr])
  | comparePair => some (alt [
      node .comparison ["==", bitwiseOr],
      node .comparison ["!=", bitwiseOr],
      node .comparison ["<=", bitwiseOr],
      node .comparison ["<", bitwiseOr],
      node .comparison [">=", bitwiseOr],
      node .comparison [">", bitwiseOr],
      node .comparison ["not", "in", bitwiseOr],
      node .comparison ["in", bitwiseOr],
      node .comparison ["is", "not", bitwiseOr],
      node .comparison ["is", bitwiseOr]])
  | bitwiseOr => some (infixed bitwiseXor ["|"])
  | bitwiseXor => some (infixed bitwiseAnd ["^"])
  | bitwiseAnd => some (infixed shiftExpr ["&"])
  | shiftExpr => some (infixed sum ["<<", ">>"])
  | sum => some (infixed term ["+", "-"])
  | term => some (infixed factor ["*", "/", "//", "%", "@"])
  | factor => some (alt [
      node .unary ["+", factor], node .unary ["-", factor], node .unary ["~", factor], power])
  | power => some (alt [node .binary [awaitPrimary, "**", factor], awaitPrimary])
  | awaitPrimary => some (alt [node .awaitE ["await", primary], primary])
  | primary => some (chain atom [
      (.member, [".", name]),
      (.generatorCall, [generator]),
      (.call, ["(", opt arguments, ")"]),
      (.subscript, ["[", slices, "]"])])
  | slices => some (alt [
      pick 0 [slice, notAhead ","],
      node .tupleE [sep (alt [slice, starredExpression]) ",", opt ","]])
  | slice => some (alt [
      node .sliceE [opt expression, ":", opt expression, opt (pick 1 [":", opt expression])],
      namedExpression])
  | atom => some (alt [
      node .name [name],
      node .literal ["True"],
      node .literal ["False"],
      node .literal ["None"],
      pick 0 [ahead string, strings],
      node .literal [number],
      pick 0 [ahead "(", alt [tuple, group, generator]],
      pick 0 [ahead "[", alt [list, listComp]],
      pick 0 [ahead "\x7b", alt [dict, setDisplay, dictComp, setComp]],
      node .literal ["..."]])
  | group => some (alt [
      node .group ["(", alt [yieldExpr, namedExpression], ")"],
      groupMisuse])
  | strings => some (node .strings [.some string])
  | list => some (node .listE ["[", opt starNamedExpressions, "]"])
  | tuple => some (node .tupleE [
      "(", opt (seq [starNamedExpression, ",", opt starNamedExpressions]), ")"])
  | setDisplay => some (node .setE ["\x7b", starNamedExpressions, "\x7d"])
  | dict => some (alt [
      node .dictE ["\x7b", opt kvPairs, "\x7d"],
      seq ["\x7b", kvPairsMisuse, "\x7d"]])
  | kvPairs => some (pick 0 [sep kvPairOrStar ",", opt ","])
  | kvPairOrStar => some (alt [node .unpack ["**", bitwiseOr], kvPair])
  | kvPair => some (node .pair [expression, ":", expression])
  | forIfClauses => some (.some forIfClause)
  | forIfClause => some (alt [clauseBehind ["async"], clauseBehind [], forTargetMisuse])
  | listComp => some (alt [
      node .listComp ["[", namedExpression, forIfClauses, "]"], comprehensionMisuse])
  | setComp => some (alt [
      node .setComp ["\x7b", namedExpression, forIfClauses, "\x7d"], comprehensionMisuse])
  | generator => some (alt [
      node .generator [
        "(", alt [assignmentExpression, pick 0 [expression, notAhead ":="]], forIfClauses, ")"],
      comprehensionMisuse])
  | dictComp => some (alt [
      node .dictComp ["\x7b", kvPair, forIfClauses, "\x7d"], dictComprehensionMisuse])
  | arguments => some (alt [pick 0 [args, opt ",", ahead ")"], argumentsMisuse])
  | args => some (alt [
      seq [
        sep (alt [
          starredExpression,
          pick 0 [
            alt [assignmentExpression, pick 0 [expression, notAhead ":="]], notAhead "="]]) ",",
        opt (pick 1 [",", kwargs])],
      seq [kwargs]])
  | kwargs => some (alt [
      seq [sep kwargOrStarred ",", ",", sep kwargOrDoubleStarred ","],
      sep kwargOrStarred ",",
      sep kwargOrDoubleStarred ","])
  | starredExpression => some (node .star ["*", expression])
  | kwargOrStarred => some (alt [
      kwargMisuse, node .keywordArg [name, "=", expression], starredExpression])
  | kwargOrDoubleStarred => some (alt [
      kwargMisuse, node .keywordArg [name, "=", expression], node .unpackArg ["**", expression]])
  | lambdaDef => some (node .lambdaE ["lambda", opt lambdaParams, ":", expression])
  | lambdaParams => some (alt [lambdaParametersMisuse, lambdaParameters])
  | lambdaParameters => some (parameterList lambdaNoDefault lambdaWithDefault lambdaSlashNoDefault lambdaSlashWithDefault
      lambdaStarEtc)
  | lambdaSlashNoDefault => some (slashNo lambdaNoDefault ":")
  | lambdaSlashWithDefault => some (slashWith lambdaNoDefault lambdaWithDefault ":")
  | lambdaStarEtc => some (alt [
      lambdaStarEtcMisuse,
      seq [node .starParam ["*", lambdaNoDefault], many lambdaMaybeDefault, opt lambdaKwds],
      seq [node .bareStarParam ["*", ","], .some lambdaMaybeDefault, opt lambdaKwds],
      lambdaKwds])
  | lambdaKwds => some (alt [lambdaKwdsMisuse, node .kwParam ["**", lambdaNoDefault]])
  | lambdaNoDefault => some (beforeEnd [lambdaParam] .param ":")
  | lambdaWithDefault => some (beforeEnd [lambdaParam, defaultValue] .param ":")
  | lambdaMaybeDefault => some (beforeEnd [lambdaParam, opt defaultValue] .param ":")
  | lambdaParam => some name
  | replacement => some starExpressions
  | _ => none

/-- An attribute or an element at the end of a primary. -/
def endOfPrimary : List Parsing := [
  node .member [tPrimary, ".", name, notAhead tLookahead],
  node .subscript [tPrimary, "[", slices, "]", notAhead tLookahead]]

def targetRule : Rule → Option Parsing
  | starTargets => some (alt [
      pick 0 [starTarget, notAhead ","],
      node .tupleE [starTarget, many (pick 1 [",", starTarget]), opt ","]])
  | starTargetsList => some (pick 0 [sep starTarget ",", opt ","])
  | starTargetsTuple => some (alt [
      pick 0 [seq [starTarget, .some (pick 1 [",", starTarget])], opt ","],
      pick 0 [seq [starTarget], ","]])
  | starTarget => some (alt [
      node .star ["*", pick 0 [notAhead "*", starTarget]], targetWithStar])
  | targetWithStar => some (alt (endOfPrimary ++ [.rule starAtom]))
  | starAtom => some (alt [
      node .name [name],
      node .group ["(", targetWithStar, ")"],
      node .tupleE ["(", opt starTargetsTuple, ")"],
      node .listE ["[", opt starTargetsList, "]"]])
  | singleTarget => some (alt [
      singleSubscriptOrAttribute, node .name [name], node .group ["(", singleTarget, ")"]])
  | singleSubscriptOrAttribute => some (alt endOfPrimary)
  | tPrimary => some (chain (pick 0 [atom, ahead tLookahead]) [
      (.member, [".", name, ahead tLookahead]),
      (.subscript, ["[", slices, "]", ahead tLookahead]),
      (.generatorCall, [generator, ahead tLookahead]),
      (.call, ["(", opt arguments, ")", ahead tLookahead])])
  | tLookahead => some (alt ["(", "[", "."])
  | delTargets => some (pick 0 [sep delTarget ",", opt ","])
  | delTarget => some (alt (endOfPrimary ++ [.rule delAtom]))
  | delAtom => some (alt [
      node .name [name],
      node .group ["(", delTarget, ")"],
      node .tupleE ["(", opt delTargets, ")"],
      node .listE ["[", opt delTargets, "]"]])
  | _ => none

/-- A header with a line break where its colon should be, or with no block behind its line. -/
def headerMisuse (header : List Parsing) (behind : String) : List Parsing := [
  hint .expectedColon (header ++ [newline]),
  hint (.missingBlock 0 behind) (header ++ ([":", newline, notAhead indent] : List Parsing))]

def parametersHint (nested : Misuse) (noDefault maybeDefault slashNo slashWith helper : Rule)
    : Parsing := alt [
  hint (.at_ 2 .defaultBeforeRequired) [many noDefault, helper, noDefault],
  hint (.range 1 4 nested) [many noDefault, "(", .some noDefault, opt ",", ")"],
  hint (.at_ 0 .nothingBeforeSlash) ["/", ","],
  hint (.at_ 2 .secondSlash) [alt [slashNo, slashWith], many maybeDefault, "/"],
  hint (.at_ 5 .slashBehindStar) [
    opt (alt [slashNo, slashWith]), many maybeDefault, "*", alt [",", noDefault],
    many maybeDefault, "/"],
  hint (.at_ 2 .commaBetweenSlashAndStar) [.some maybeDefault, "/", "*"]]

def starHint (bare : Hint) (one noDefault maybeDefault : Rule) (close : String) : Parsing := alt [
  hint bare ["*", alt [close, seq [",", alt [close, "**"]]]],
  hint (.at_ 2 .starDefault) ["*", one, "="],
  hint (.at_ 3 .secondStar) [
    "*", alt [noDefault, ","], many maybeDefault, "*", alt [noDefault, ","]]]

def kwdsHint (one : Rule) : Parsing := alt [
  hint (.at_ 2 .keywordsDefault) ["**", one, "="],
  hint (.at_ 3 .behindKeywords) ["**", one, ",", one],
  hint (.at_ 3 .behindKeywords) ["**", one, ",", alt ["*", "**", "/"]]]

def withItems : Parsing := sep (seq [expression, opt (pick 1 ["as", starTarget])]) ","

def withItemsInParens : List Parsing := [
  "(", sep (seq [expressions, opt (pick 1 ["as", starTarget])]) ",", opt ",", ")"]

def misuseRule : Rule → Option Parsing
  | argumentsMisuse => some (alt [
      hint (.at_ 0 .starAfterKeywords) [args, ",", "*"],
      hint (.range 0 1 .bareGenerator) [
        expression, forIfClauses, ",", opt (alt [args, seq [expression, forIfClauses]])],
      hint (.equals 1) [name, "=", expression, forIfClauses],
      hint .generatorInCall [args, forIfClauses],
      hint .generatorBehind [args, ",", expression, forIfClauses],
      hint .positionalBehind [args, ",", args]])
  | kwargMisuse => some (alt [
      hint .keywordTarget [alt ["True", "False", "None"], "="],
      hint (.equals 1) [name, "=", expression, forIfClauses],
      hint (.range 0 1 .assignmentInArgument) [notAhead (seq [name, "="]), expression, "="]])
  | plainExpression => some (plain (alt [
      node .conditional [disjunction, "if", disjunction, "else", expression],
      disjunction,
      lambdaDef]))
  | legacyMisuse => some (hint .legacyCall [name, notAhead "(", starExpressions])
  | expressionMisuse => some (alt [
      hint .comma [
        notAhead (alt [seq [name, string], softKeyword]), disjunction, plainExpression],
      hint (.range 0 2 .missingElse) [disjunction, "if", disjunction, notAhead (alt ["else", ":"])]])
  | namedMisuse => some (alt [
      hint .walrus [expression, ":=", expression],
      hint (.equals 2) [name, "=", bitwiseOr, notAhead (alt ["=", ":="])],
      hint .assignHere [
        notAhead (alt [list, tuple, generator, "True", "None", "False"]), bitwiseOr, "=",
        bitwiseOr, notAhead (alt ["=", ":="])]])
  | assignmentMisuse => some (alt [
      hint .annotated [annotatedMisuse, ":", expression],
      hint (.at_ 0 .annotatedTuple) [
        starNamedExpression, ",", many starNamedExpressions, ":", expression],
      hint (.at_ 0 .annotatedTarget) [expression, ":", expression],
      hint (.starTarget 1) [many (seq [starTargets, "="]), starExpressions, "="],
      hint (.at_ 1 .yieldTarget) [many (seq [starTargets, "="]), yieldExpr, "="],
      hint .augmented [starExpressions, augAssign, alt [yieldExpr, starExpressions]]])
  | annotatedMisuse => some (alt [list, tuple, pick 1 ["(", annotatedMisuse, ")"]])
  | delMisuse => some (hint (.delTarget 1) ["del", starExpressions])
  | blockMisuse => some (hint .missingAnyBlock [newline, notAhead indent])
  | comprehensionMisuse => some (alt [
      hint (.at_ 1 .starInComprehension) [
        alt ["[", "(", "\x7b"], starredExpression, forIfClauses],
      hint (.range 1 3 .bareComprehensionTarget) [
        alt ["[", "\x7b"], starNamedExpression, ",", starNamedExpressions, forIfClauses],
      hint (.range 1 2 .bareComprehensionTarget) [
        alt ["[", "\x7b"], starNamedExpression, ",", forIfClauses]])
  | dictComprehensionMisuse => some (
      hint (.at_ 1 .unpackingInComprehension) ["\x7b", "**", bitwiseOr, forIfClauses, "\x7d"])
  | parametersMisuse => some (parametersHint .nestedParameters paramNoDefault paramMaybeDefault
      slashNoDefault slashWithDefault parametersHelper)
  | parametersHelper => some (alt [slashWithDefault, .some paramWithDefault])
  | defaultMisuse => some (hint (.at_ 0 .missingDefault) ["=", ahead (alt [")", ","])])
  | starEtcMisuse => some (starHint (.at_ 0 .bareStar) param paramNoDefault paramMaybeDefault ")")
  | kwdsMisuse => some (kwdsHint param)
  | lambdaParametersMisuse => some (parametersHint .nestedLambdaParameters lambdaNoDefault
      lambdaMaybeDefault lambdaSlashNoDefault lambdaSlashWithDefault lambdaParametersHelper)
  | lambdaParametersHelper => some (alt [lambdaSlashWithDefault, .some lambdaWithDefault])
  | lambdaStarEtcMisuse => some (starHint (.last .bareStar) lambdaParam lambdaNoDefault lambdaMaybeDefault
      ":")
  | lambdaKwdsMisuse => some (kwdsHint lambdaParam)
  | withItemMisuse => some (
      hint (.starTarget 2) [expression, "as", expression, ahead (alt [",", ")", ":"])])
  | forTargetMisuse => some (hint (.forTarget 2) [optAsync, "for", starExpressions])
  | groupMisuse => some (alt [
      hint (.at_ 1 .starredGroup) ["(", starredExpression, ")"],
      hint (.at_ 1 .doubleStarredGroup) ["(", "**", expression, ")"]])
  | importMisuse => some (hint (.last .trailingComma) [importAsNames, ",", newline])
  | withMisuse => some (alt [
      hint .expectedColon [optAsync, "with", withItems, newline],
      hint .expectedColon (optAsync :: "with" :: withItemsInParens ++ [newline])])
  | withIndentMisuse => some (alt [
      hint (.missingBlock 1 "'with' statement") [
        optAsync, "with", withItems, ":", newline, notAhead indent],
      hint (.missingBlock 1 "'with' statement")
        (optAsync :: "with" :: withItemsInParens ++
          ([":", newline, notAhead indent] : List Parsing))])
  | tryMisuse => some (alt [
      hint (.missingBlock 0 "'try' statement") ["try", ":", newline, notAhead indent],
      hint .missingHandler ["try", ":", block, notAhead (alt ["except", "finally"])],
      hint (.last .bothExcepts) [
        "try", ":", many block,
        alt [
          seq [.some exceptBlock, exceptStarBlock],
          seq [.some exceptStarBlock, exceptBlock]],
        many block]])
  | exceptMisuse => some (alt [
      hint (.from_ 2 .bareExceptTypes) [
        "except", opt "*", expression, ",", expressions, asName, ":"],
      hint .expectedColon ["except", opt "*", expression, asName, newline],
      hint .expectedColon ["except", newline],
      hint (.last .missingExceptTypes) ["except", "*", alt [newline, ":"]]])
  | finallyMisuse => some (
      hint (.missingBlock 0 "'finally' statement") ["finally", ":", newline, notAhead indent])
  | exceptIndentMisuse => some (alt [
      hint (.missingBlock 0 "'except' statement") [
        "except", expression, asName, ":", newline, notAhead indent],
      hint (.missingBlock 0 "'except' statement") ["except", ":", newline, notAhead indent]])
  | exceptStarIndentMisuse => some (
      hint (.missingBlock 0 "'except*' statement") [
        "except", "*", expression, asName, ":", newline, notAhead indent])
  | matchMisuse => some (alt (headerMisuse [soft "match", subject] "'match' statement"))
  | caseMisuse => some (alt (headerMisuse [soft "case", patterns, opt caseGuard] "'case' statement"))
  | asPatternMisuse => some (alt [
      hint (.at_ 2 .wildcardTarget) [orPattern, "as", soft "_"],
      hint (.at_ 2 .patternTarget) [orPattern, "as", notAhead name, expression]])
  | classPatternMisuse => some (
      hint (.at_ 2 .positionalPattern) [alt [attr, name], "(", classArgumentMisuse])
  | classArgumentMisuse => some (pick 2 [
      opt (pick 0 [positionalPatterns, ","]), keywordPatterns,
      pick 1 [",", positionalPatterns]])
  | ifMisuse => some (alt (headerMisuse ["if", namedExpression] "'if' statement"))
  | elifMisuse => some (alt (headerMisuse ["elif", namedExpression] "'elif' statement"))
  | elseMisuse => some (
      hint (.missingBlock 0 "'else' statement") ["else", ":", newline, notAhead indent])
  | whileMisuse => some (alt (headerMisuse ["while", namedExpression] "'while' statement"))
  | forMisuse => some (alt [
      hint .expectedColon [optAsync, "for", starTargets, "in", starExpressions, newline],
      hint (.missingBlock 1 "'for' statement") [
        optAsync, "for", starTargets, "in", starExpressions, ":", newline, notAhead indent]])
  | defMisuse => some (
      hint (.missingBlock 1 "function definition") [
        optAsync, "def", name, "(", opt params, ")", opt (pick 1 ["->", expression]), ":", newline,
        notAhead indent])
  | classMisuse => some (alt (headerMisuse
      ["class", name, opt (pick 1 ["(", opt arguments, ")"])] "class definition"))
  | kvPairsMisuse => some (alt [
      seq [sep kvPairOrStar ",", ",", kvPairMisuse],
      hint (.from_ 2 .starredDictValue) [expression, ":", "*", bitwiseOr],
      hint (.at_ 1 .missingDictValue) [expression, ":", ahead (alt ["\x7d", ","])]])
  | kvPairMisuse => some (alt [
      hint .missingColonBehind [expression, notAhead ":"],
      hint (.from_ 2 .starredDictValue) [expression, ":", "*", bitwiseOr],
      hint (.at_ 1 .missingDictValue) [expression, ":", ahead (alt ["\x7d", ","])]])
  | _ => none

/-- What a rule matches. -/
def rules (r : Rule) : Parsing :=
  (statementRule r <|> expressionRule r <|> targetRule r <|> patternRule r <|> misuseRule r).getD
    (alt [])

/-- A rule that takes steps behind a first operand counts twice, and a misuse does not count. -/
def levels (r : Rule) : Nat :=
  if (misuseRule r).isSome then 0
  else
    match rules r with
    | chain _ _ => 2
    | _ => 1

end

/-! ### Complaints -/

/-- Which statement a target stands in. -/
inductive TargetKind
  | star
  | loop
  | deletion
deriving DecidableEq

/-- The first expression in a target that cannot be one. -/
def badTarget? (k : TargetKind) : (fuel : Nat) → Tree → Option Tree
  | 0, _ => none
  | fuel + 1, t =>
    match t with
    | .node .listE _ [_, ts, _] => (flat ts).findSome? (badTarget? k fuel)
    | .node .tupleE _ kids => (kids.flatMap flat).findSome? (badTarget? k fuel)
    | .node .group _ [_, t, _] => badTarget? k fuel t
    | .node .star _ [_, e] => if k = .deletion then some t else badTarget? k fuel e
    | .node .compare _ [left, .list (.node .comparison _ [op, _] :: _)] =>
      if k = .loop then
        match op with
        | .leaf o => if o.text = "in" then badTarget? k fuel left else none
        | _ => none
      else some t
    | .node .compare _ _ => if k = .loop then none else some t
    | .node .name _ _ | .node .subscript _ _ | .node .member _ _ => none
    | t => some t
where
  /-- The expressions in a part of a tuple or list: its punctuation is left out. -/
  flat (t : Tree) : List Tree :=
    match t with
    | .leaf _ | .absent => []
    | .list ts => ts.flatMap fun t =>
        match t with
        | .leaf _ | .absent => []
        | .list ts => ts
        | t => [t]
    | t => [t]

def lineOf? (t : Tree) : Option Nat := t.bare.firstToken?.map (·.line)

/-- Where an expression is, without the parentheses around it. -/
def spanOf? (t : Tree) : Option Span :=
  match t.bare.firstToken?, t.bare.lastToken? with
  | some a, some b => some (a.spanTo b)
  | _, _ => none

/-- The last expression of the clauses of a comprehension; anything else is its own last one. -/
def lastItem (t : Tree) : Tree :=
  match t with
  | .list ts =>
    match ts.getLast? with
    | some (.node .clause _ kids) =>
      match kids.getLast? with
      | some (.list (c :: cs)) => (c :: cs).getLastD .absent
      | _ => kids.getD 3 .absent
    | some t => t
    | none => .absent
  | t => t

/-- The target of the last clause of a comprehension. -/
def lastTarget (t : Tree) : Tree :=
  match t.elements.getLast? with
  | some (.node .clause _ kids) => kids.getD 1 .absent
  | _ => .absent

/-- From one expression to another. -/
def spanBetween? (t u : Tree) : Option Span :=
  match t.bare.firstToken?, u.bare.lastToken? with
  | some a, some b => some (a.spanTo b)
  | _, _ => none

def targetFault (k : TargetKind) (t : Tree) : Option (Cause × Span) :=
  (badTarget? k 1000 t).bind fun bad =>
    (spanOf? bad).map fun place =>
      (if k = .deletion then .deleteOf bad.describe else .assignTo bad.describe, place)

/-- The arguments of a call, in which keywords and unpackings follow positional ones. -/
def isKeywordArg : Tree → Bool
  | .node .keywordArg _ _ => true
  | .node .unpackArg _ _ => true
  | _ => false

/-- The parts of a list of lists. -/
def flatten : (fuel : Nat) → Tree → List Tree
  | 0, _ => []
  | fuel + 1, .list ts => ts.flatMap (flatten fuel)
  | _ + 1, .absent => []
  | _ + 1, t => [t]

def positional (args : Tree) : List Tree := (flatten 10 args).filter fun t => !isKeywordArg t

/-- The complaint of a hint about what it matched, and where it is put. -/
def complain (h : Hint) (kids : List Tree) (scene : Peg.Scene) : Option (Cause × Span) :=
  let kid (i : Nat) : Tree := kids.getD i .absent
  let what (i : Nat) : String := (kid i).bare.describe
  let here := scene.latest.span
  let at_ (i : Nat) : Span := (spanOf? (kid i)).getD here
  let range (i j : Nat) : Span := (spanBetween? (kid i) (lastItem (kid j))).getD here
  match h with
  | .at_ i m => some (.misuse m, at_ i)
  | .range i j m => some (.misuse m, range i j)
  | .from_ i m =>
    let place := (kid i).bare.firstToken?.map (·.spanToCursor scene.latest)
    some (.misuse m, place.getD here)
  | .last m => some (.misuse m, here)
  | .expectedColon => some (.expected ":", here)
  | .missingBlock i behind =>
    some (.expectedBlock behind ((lineOf? (kid i)).getD scene.latest.line), here)
  | .missingAnyBlock => some (.expectedAnyBlock, here)
  | .missingHandler => some (.expectedHandler, here)
  | .legacyCall =>
    match kids.head? with
    | some (.leaf t) =>
      if t.text = "print" || t.text = "exec" then some (.missingCall t.text, range 0 1) else none
    | _ => none
  | .comma =>
    let isLegacy := match kid 0 with
      | .node .name _ [.leaf t] => t.text = "print" || t.text = "exec"
      | _ => false
    if isLegacy || scene.lastToken.level = 0 then none
    else some (.misuse .missingComma, range 0 1)
  | .equals i => some (.equalsHere, range 0 i)
  | .keywordTarget => some (.assignTo (what 0), range 0 1)
  | .walrus => some (.walrusTo (what 0), at_ 0)
  | .assignHere => some (.assignHere (what 0), at_ 0)
  | .annotated => some (.annotated (what 0), at_ 0)
  | .augmented => some (.augmented (what 0), at_ 0)
  | .starTarget i => targetFault .star (kid i)
  | .forTarget i => targetFault .loop (kid i)
  | .delTarget i => targetFault .deletion (kid i)
  | .generatorInCall =>
    let ps := positional (kid 0)
    if ps.length ≤ 1 then none
    else
      let place := spanBetween? (ps.getLastD .absent) (lastItem (kid 1))
      some (.misuse .bareGenerator, place.getD here)
  | .generatorBehind =>
    some (.misuse .bareGenerator, (spanBetween? (kid 2) (lastTarget (kid 3))).getD here)
  | .positionalBehind =>
    let unpacked := (flatten 10 (kid 0)).any fun t =>
      match t with
      | .node .unpackArg _ _ => true
      | _ => false
    some (.misuse (if unpacked then .positionalAfterUnpacking else .positionalAfterKeyword), here)
  | .missingColonBehind =>
    -- It is put on the last character of the expression.
    match (kid 0).bare.firstToken?, (kid 0).bare.lastToken? with
    | some a, some b => some (.misuse .missingDictColon, ⟨a.line, b.endColumn, b.endLine, 0⟩)
    | _, _ => none

end Grammar

end ThaiScript.Program
