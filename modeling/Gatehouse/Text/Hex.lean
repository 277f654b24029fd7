import Gatehouse.Text.Bytes

/-!
Hexadecimal text of byte strings: written in lower case, read in either case.
-/

namespace Gatehouse.Hex

/-- The lower-case digit of a value below sixteen. -/
def digit (n : Nat) : Char :=
  if n < 10 then Char.ofNat (48 + n) else Char.ofNat (87 + n)

/-- The value of a digit of either case. -/
def value? (c : Char) : Option Nat :=
  if '0' ≤ c && c ≤ '9' then some (c.toNat - 48)
  else if 'a' ≤ c && c ≤ 'f' then some (c.toNat - 87)
  else if 'A' ≤ c && c ≤ 'F' then some (c.toNat - 55)
  else none

/-- Two digits for each byte, the higher half first. -/
def encode (bytes : Bytes) : List Char :=
  bytes.flatMap fun b => [digit (b.toNat / 16), digit (b.toNat % 16)]

/-- The bytes that pairs of digits spell. An odd number of digits or any other character spells
nothing. -/
def decode : List Char → Option Bytes
  | [] => some []
  | [_] => none
  | high :: low :: rest => do
    let h ← value? high
    let l ← value? low
    let bytes ← decode rest
    some (UInt8.ofNat (h * 16 + l) :: bytes)

/-- The hexadecimal text of a byte string. -/
def text (bytes : Bytes) : String :=
  String.ofList (encode bytes)

end Gatehouse.Hex
