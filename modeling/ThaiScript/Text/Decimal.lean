import ThaiScript.Text.Points

/-!
# Decimal digits and spaces

Every script has its own ten digits, which stand in a row. A numeral may be written in any of them.
-/

namespace ThaiScript.Points

/-- The code points of the digits zero. -/
def zeros : List Nat := [
  0x30, 0x660, 0x6F0, 0x7C0, 0x966, 0x9E6, 0xA66, 0xAE6, 0xB66, 0xBE6, 0xC66, 0xCE6, 0xD66, 0xDE6, 0xE50,
  0xED0, 0xF20, 0x1040, 0x1090, 0x17E0, 0x1810, 0x1946, 0x19D0, 0x1A80, 0x1A90, 0x1B50, 0x1BB0, 0x1C40,
  0x1C50, 0xA620, 0xA8D0, 0xA900, 0xA9D0, 0xA9F0, 0xAA50, 0xABF0, 0xFF10, 0x104A0, 0x10D30, 0x11066,
  0x110F0, 0x11136, 0x111D0, 0x112F0, 0x11450, 0x114D0, 0x11650, 0x116C0, 0x11730, 0x118E0, 0x11950,
  0x11C50, 0x11D50, 0x11DA0, 0x16A60, 0x16AC0, 0x16B50, 0x1D7CE, 0x1D7D8, 0x1D7E2, 0x1D7EC,
  0x1D7F6, 0x1E140, 0x1E2F0, 0x1E950, 0x1FBF0]

/-- The value of a decimal digit. -/
def decimal? (n : Nat) : Option Nat :=
  (zeros.find? fun z => z ≤ n && n < z + 10).map (n - ·)

/-- Whether a code point is a space between words. -/
def isSpace (n : Nat) : Bool :=
  (9 ≤ n && n ≤ 13) || (28 ≤ n && n ≤ 32) || n = 0x85 || n = 0xA0 || n = 0x1680 ||
    (0x2000 ≤ n && n ≤ 0x200A) || n = 0x2028 || n = 0x2029 || n = 0x202F || n = 0x205F || n = 0x3000

def stripLeft (p : Points) (drop : Nat → Bool) : Points := p.dropWhile drop

def stripRight (p : Points) (drop : Nat → Bool) : Points := (p.reverse.dropWhile drop).reverse

def strip (p : Points) (drop : Nat → Bool) : Points := (p.stripLeft drop).stripRight drop

/-- The text in which every digit is written as `0` to `9` and every space as a blank, as far as it
stands for a numeral. A text of ASCII characters stays as it is. -/
def plainNumeral (p : Points) : Text :=
  if p.all (· < 0x80) then p.map Char.ofNat
  else p.map fun n =>
    match decimal? n with
    | some d => Char.ofNat (48 + d)
    | none => if isSpace n then ' ' else Char.ofNat n

end ThaiScript.Points
