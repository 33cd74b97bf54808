import ThaiScript.Program.Identifier
import ThaiScript.Text.CaseTable
import ThaiScript.Text.Decimal

/-!
# Letters and letter case

Some letters have an upper and a lower case, a few also a form of their own at the head of a word. What
a letter becomes may be several characters. Letters of scripts without case, such as Thai, stay as
they are.
-/

namespace ThaiScript.Points

open CaseTable

/-- Whether a code point is a letter. -/
def isLetter (n : Nat) : Bool :=
  (inRanges Program.startRanges n && n ≠ 0x5F && !inRanges noLetters n) || inRanges lettersElse n

/-- Whether a code point is a digit, of a numeral or of another kind. -/
def isDigit (n : Nat) : Bool := (decimal? n).isSome || inRanges digitsElse n

/-- Whether a code point stands for a number. -/
def isNumeric (n : Nat) : Bool := isDigit n || inRanges numbersElse n

/-- What a letter becomes by the first row that is about it. -/
def byRows (rows : List (Nat × Nat × Nat × Int)) (n : Nat) : Option Nat :=
  (rows.find? fun (first, last, step, _) => first ≤ n && n ≤ last && (n - first) % step = 0).map
    fun (_, _, _, distance) => ((n : Int) + distance).toNat

/-- What a letter becomes by tables of words and of rows, the words before the rows. -/
def byTables (words : List (Nat × List Nat)) (rows : List (Nat × Nat × Nat × Int)) (n : Nat) :
    Option Points :=
  (words.find? (·.1 = n)).map (·.2) <|> (byRows rows n).map fun m => [m]

def upperPoint (n : Nat) : Points := (byTables upperWords upperRows n).getD [n]

def lowerPoint (n : Nat) : Points := (byTables lowerWords lowerRows n).getD [n]

/-- What a letter becomes at the head of a word. -/
def titlePoint (n : Nat) : Points := (byTables titleWords titleRows n).getD (upperPoint n)

/-- What a letter becomes when case does not matter. -/
def foldedPoint (n : Nat) : Points := (byTables foldedWords foldedRows n).getD (lowerPoint n)

/-- Whether a letter is of the case that only the heads of words have. -/
def isTitlePoint (n : Nat) : Bool := inRanges titleOnly n

def isUpperPoint (n : Nat) : Bool :=
  !isTitlePoint n && ((byTables lowerWords lowerRows n).isSome || inRanges upperOnly n)

def isLowerPoint (n : Nat) : Bool :=
  !isTitlePoint n && ((byTables upperWords upperRows n).isSome || inRanges lowerOnly n)

def isCased (n : Nat) : Bool := isUpperPoint n || isLowerPoint n || isTitlePoint n

/-- Whether a code point does not part the letters around it: points, quotes and marks. -/
def isTransparent (n : Nat) : Bool :=
  n = 0x27 || n = 0x2E || n = 0x3A || n = 0x5E || n = 0x60 || n = 0xA8 || n = 0xAD || n = 0xAF ||
    n = 0xB4 || n = 0xB7 || n = 0xB8 || n = 0x2019 || (0x2B0 ≤ n && n ≤ 0x36F)

/-- Whether the nearest code point that parts letters has case. -/
def meetsCased (p : Points) : Bool :=
  match p.dropWhile isTransparent with
  | [] => false
  | n :: _ => isCased n

/-- A code point in lower case; `before` is what stands in front of it, the nearest first. A sigma at
the end of a word has a form of its own. -/
def lowerWithin (before : Points) (n : Nat) (after : Points) : Points :=
  if n = 0x3A3 then if meetsCased before && !meetsCased after then [0x3C2] else [0x3C3]
  else lowerPoint n

def upper (p : Points) : Points := p.flatMap upperPoint

def lower (p : Points) : Points :=
  let rec go : (before : Points) → Points → Points
    | _, [] => []
    | before, n :: p => lowerWithin before n p ++ go (n :: before) p
  go [] p

def caseFold (p : Points) : Points := p.flatMap foldedPoint

/-- Every word begins with a letter as heads of words have it and goes on in lower case. -/
def title (p : Points) : Points :=
  let rec go : (before : Points) → Points → Points
    | _, [] => []
    | before, n :: p =>
      let inside := (before.head?.map isCased).getD false
      (if inside then lowerWithin before n p else titlePoint n) ++ go (n :: before) p
  go [] p

def capitalize : Points → Points
  | [] => []
  | n :: p => titlePoint n ++ (lower (n :: p)).drop (lowerPoint n).length

def swapCase (p : Points) : Points :=
  let rec go : (before : Points) → Points → Points
    | _, [] => []
    | before, n :: p =>
      (if isUpperPoint n then lowerWithin before n p else if isLowerPoint n then upperPoint n else [n]) ++
        go (n :: before) p
  go [] p

def isUpper (p : Points) : Bool :=
  p.any isUpperPoint && !p.any fun n => isLowerPoint n || isTitlePoint n

def isLower (p : Points) : Bool :=
  p.any isLowerPoint && !p.any fun n => isUpperPoint n || isTitlePoint n

/-- Whether letters of upper case stand only at the heads of words, and those of lower case only
behind other letters. -/
def isTitled (p : Points) : Bool :=
  let rec go : (inside : Bool) → Points → Bool
    | _, [] => true
    | inside, n :: p =>
      if isUpperPoint n || isTitlePoint n then !inside && go true p
      else if isLowerPoint n then inside && go true p
      else go false p
  p.any isCased && go false p

end ThaiScript.Points
