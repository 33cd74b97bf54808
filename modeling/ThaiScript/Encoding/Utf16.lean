import ThaiScript.Encoding.Utf8

/-!
# UTF-16

A unit is two bytes, in one of two orders. Decoding replaces every unit that is half of a pair
without the other half by one replacement character, and likewise what the end breaks off.
-/

namespace ThaiScript.Utf16

inductive Order
  | little
  | big
deriving DecidableEq, Repr

def encodeUnit (o : Order) (u : Nat) : Bytes :=
  match o with
  | .little => [u % 0x100, u / 0x100]
  | .big => [u / 0x100, u % 0x100]

def units (c : Char) : List Nat :=
  let n := c.toNat
  if n < 0x10000 then [n]
  else [0xD800 + (n - 0x10000) / 0x400, 0xDC00 + (n - 0x10000) % 0x400]

def encode (o : Order) (t : Text) : Bytes := (t.flatMap units).flatMap (encodeUnit o)

def isHigh (u : Nat) : Bool := 0xD800 ≤ u && u ≤ 0xDBFF

def isLow (u : Nat) : Bool := 0xDC00 ≤ u && u ≤ 0xDFFF

/-- The units of a list of bytes, and whether a byte is left over. -/
def ofBytes (o : Order) : Bytes → List Nat × Bool
  | a :: b :: bs =>
    let (us, odd) := ofBytes o bs
    ((match o with
      | .little => b * 0x100 + a
      | .big => a * 0x100 + b) :: us, odd)
  | [_] => ([], true)
  | [] => ([], false)

/-- `odd` tells whether half a unit follows the units. -/
def decodeUnits (odd : Bool) : List Nat → Text
  | [] => if odd then [Utf8.replacement] else []
  | u :: us =>
    if isHigh u then
      match us with
      | [] => [Utf8.replacement]
      | v :: us' =>
        if isLow v then
          Char.ofNat (0x10000 + (u - 0xD800) * 0x400 + (v - 0xDC00)) :: decodeUnits odd us'
        else Utf8.replacement :: decodeUnits odd (v :: us')
    else if isLow u then Utf8.replacement :: decodeUnits odd us
    else Char.ofNat u :: decodeUnits odd us

def decode (o : Order) (bs : Bytes) : Text :=
  let (us, odd) := ofBytes o bs
  decodeUnits odd us

end ThaiScript.Utf16
