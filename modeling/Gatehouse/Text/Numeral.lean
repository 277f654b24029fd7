/-!
Whole numbers in decimal.

`natText` and `intText` write the canonical numeral: no leading zero, no sign but a minus. The
readers are more lenient than that. They take leading zeros, and where a sign is allowed they take
a plus too, so several texts denote one number.
-/

namespace Gatehouse.Numeral

/-- The digits of a number, most significant first. -/
def digits (n : Nat) : List Char :=
  if n < 10 then [Char.ofNat (48 + n)] else digits (n / 10) ++ [Char.ofNat (48 + n % 10)]

/-- The digits of an integer behind a minus where there is need of one. -/
def intDigits (i : Int) : List Char :=
  if i < 0 then '-' :: digits i.natAbs else digits i.natAbs

def natText (n : Nat) : String :=
  String.ofList (digits n)

def intText (i : Int) : String :=
  String.ofList (intDigits i)

def isDigit (c : Char) : Bool :=
  '0' ≤ c && c ≤ '9'

/-- The number that a row of decimal digits denotes. -/
def natOfDigits (cs : List Char) : Nat :=
  cs.foldl (fun n c => n * 10 + (c.toNat - 48)) 0

/-- A number without a sign: one digit or more and nothing else. -/
def nat? (cs : List Char) : Option Nat :=
  if cs.isEmpty then none
  else if cs.all isDigit then some (natOfDigits cs)
  else none

/-- An integer with an optional sign. -/
def int? : List Char → Option Int
  | '-' :: rest => (nat? rest).map fun n => -(n : Int)
  | '+' :: rest => (nat? rest).map fun n => (n : Int)
  | cs => (nat? cs).map fun n => (n : Int)

/-- Whether an integer fits a signed word of 64 bits. -/
def fitsInt64 (i : Int) : Bool :=
  -0x8000000000000000 ≤ i && i < 0x8000000000000000

/-- An integer of a signed word of 64 bits. -/
def int64? (cs : List Char) : Option Int :=
  (int? cs).filter fitsInt64

/-- A number below `bound`, with an optional plus. -/
def natBelow? (bound : Nat) (cs : List Char) : Option Nat :=
  let unsigned := match cs with
    | '+' :: rest => rest
    | cs => cs
  (nat? unsigned).filter (· < bound)

/-- The nearest signed word of 64 bits. -/
def clampInt64 (i : Int) : Int :=
  if i < -0x8000000000000000 then -0x8000000000000000
  else if 0x8000000000000000 ≤ i then 0x7FFFFFFFFFFFFFFF
  else i

/-- The signed word of 64 bits with the same low bits. -/
def wrapInt64 (i : Int) : Int :=
  Int.bmod i 0x10000000000000000

/-- The signed word of 32 bits with the same low bits. -/
def wrapInt32 (i : Int) : Int :=
  Int.bmod i 0x100000000

end Gatehouse.Numeral
