import ThaiScript.Text.Basic

/-!
# White space and letter case

White space is the Unicode property White_Space; lower case is that of ASCII letters alone.
-/

namespace ThaiScript.Text

/-- White_Space. -/
def blankRanges : List (Nat × Nat) := [
  (0x9, 0xD), (0x20, 0x20), (0x85, 0x85), (0xA0, 0xA0), (0x1680, 0x1680), (0x2000, 0x200A),
  (0x2028, 0x2029), (0x202F, 0x202F), (0x205F, 0x205F), (0x3000, 0x3000)]

def isBlankChar (c : Char) : Bool := inRanges blankRanges c.toNat

/-- A text without the white space at its two ends. -/
def trim (t : Text) : Text :=
  ((t.dropWhile isBlankChar).reverse.dropWhile isBlankChar).reverse

/-- Whether nothing is left of a text after trimming. -/
def isBlank (t : Text) : Bool := t.all isBlankChar

def asciiLower (t : Text) : Text := t.map Char.toLower

end ThaiScript.Text
