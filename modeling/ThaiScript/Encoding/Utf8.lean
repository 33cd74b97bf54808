import ThaiScript.Text.Basic

/-!
# UTF-8

Bytes are numbers below 256. Decoding replaces every longest beginning of a character that breaks off
by one replacement character, and goes on with the byte that broke it off.
-/

namespace ThaiScript

abbrev Bytes := List Nat

namespace Utf8

def encodeChar (c : Char) : Bytes :=
  let n := c.toNat
  if n < 0x80 then [n]
  else if n < 0x800 then [0xC0 + n / 0x40, 0x80 + n % 0x40]
  else if n < 0x10000 then [0xE0 + n / 0x1000, 0x80 + n / 0x40 % 0x40, 0x80 + n % 0x40]
  else [0xF0 + n / 0x40000, 0x80 + n / 0x1000 % 0x40, 0x80 + n / 0x40 % 0x40, 0x80 + n % 0x40]

def encode (t : Text) : Bytes := t.flatMap encodeChar

def replacement : Char := '\ufffd'

/-- Whether `b` continues a character. -/
def isTail (b : Nat) : Bool := 0x80 ≤ b && b ≤ 0xBF

/-- Whether `b` may follow the first byte `a` of three or four: this leaves out what has a shorter
form, surrogates, and what lies behind the last character. -/
def isSecond (a b : Nat) : Bool :=
  if a = 0xE0 then 0xA0 ≤ b && b ≤ 0xBF
  else if a = 0xED then 0x80 ≤ b && b ≤ 0x9F
  else if a = 0xF0 then 0x90 ≤ b && b ≤ 0xBF
  else if a = 0xF4 then 0x80 ≤ b && b ≤ 0x8F
  else isTail b

def decode : Bytes → Text
  | [] => []
  | a :: bs =>
    if a < 0x80 then Char.ofNat a :: decode bs
    else if 0xC2 ≤ a ∧ a ≤ 0xDF then
      match bs with
      | [] => [replacement]
      | b :: bs' =>
        if isTail b then Char.ofNat ((a - 0xC0) * 0x40 + (b - 0x80)) :: decode bs'
        else replacement :: decode (b :: bs')
    else if 0xE0 ≤ a ∧ a ≤ 0xEF then
      match bs with
      | [] => [replacement]
      | b :: bs' =>
        if isSecond a b then
          match bs' with
          | [] => [replacement]
          | c :: bs'' =>
            if isTail c then
              Char.ofNat ((a - 0xE0) * 0x1000 + (b - 0x80) * 0x40 + (c - 0x80)) :: decode bs''
            else replacement :: decode (c :: bs'')
        else replacement :: decode (b :: bs')
    else if 0xF0 ≤ a ∧ a ≤ 0xF4 then
      match bs with
      | [] => [replacement]
      | b :: bs' =>
        if isSecond a b then
          match bs' with
          | [] => [replacement]
          | c :: bs'' =>
            if isTail c then
              match bs'' with
              | [] => [replacement]
              | d :: bs''' =>
                if isTail d then
                  Char.ofNat ((a - 0xF0) * 0x40000 + (b - 0x80) * 0x1000 + (c - 0x80) * 0x40 +
                    (d - 0x80)) :: decode bs'''
                else replacement :: decode (d :: bs''')
            else replacement :: decode (c :: bs'')
        else replacement :: decode (b :: bs')
    else replacement :: decode bs

/-! ### Faults -/

inductive Fault
  | start
  | continuation
  | endOfData
deriving DecidableEq, Repr

namespace Fault

def message : Fault → Text
  | start => "invalid start byte"
  | continuation => "invalid continuation byte"
  | endOfData => "unexpected end of data"

end Fault

/-- The number of bytes of the first character, or of its beginning, if what follows is at fault. -/
def headLength : Bytes → Except (Nat × Fault) Nat
  | [] => .ok 0
  | a :: bs =>
    let least := if 0xC2 ≤ a ∧ a ≤ 0xDF then 2 else if 0xE0 ≤ a ∧ a ≤ 0xEF then 3
      else if 0xF0 ≤ a ∧ a ≤ 0xF4 then 4 else 1
    if a < 0x80 then .ok 1
    else if least = 1 then .error (1, .start)
    else
      let tails := match bs with
        | [] => 0
        | b :: bs => if isSecond a b then 1 + (bs.takeWhile isTail).length else 0
      if least ≤ tails + 1 then .ok least
      else if bs.length ≤ tails then .error (tails + 1, .endOfData)
      else .error (tails + 1, .continuation)

/-- The first bytes that are no character: their place, their number and what is wrong. `skip` bytes
belong to a character that was read. -/
def faultFrom? : (skip place : Nat) → Bytes → Option (Nat × Nat × Fault)
  | _, _, [] => none
  | skip + 1, place, _ :: bs => faultFrom? skip (place + 1) bs
  | 0, place, a :: bs =>
    match headLength (a :: bs) with
    | .ok n => faultFrom? (n - 1) (place + 1) bs
    | .error (n, fault) => some (place, n, fault)

def fault? (bs : Bytes) : Option (Nat × Nat × Fault) := faultFrom? 0 0 bs

end Utf8

end ThaiScript
