import Gatehouse.Text.Hex
import Gatehouse.Text.Numeral

/-!
IP addresses and socket addresses: reading them, and the canonical text of an IP address.

An address of version 6 is eight groups of 16 bits. It may be shortened by one `::` for groups of
zeros, and its last two groups may be spelled as an address of version 4.
-/

namespace Gatehouse.Net

/-- An IP address of either version. -/
inductive IpAddr where
  | v4 (a b c d : Nat)
  | v6 (groups : List Nat)
  deriving DecidableEq, Repr, Inhabited

/-! ## Readers

Each returns what it read and the characters after it. -/

/-- A character that has to be there. -/
def expect? (c : Char) : List Char → Option (List Char)
  | d :: rest => if c = d then some rest else none
  | [] => none

/-- One part of an address of version 4: up to three digits without a leading zero, below 256. -/
def octet? (cs : List Char) : Option (Nat × List Char) :=
  let (digits, rest) := cs.span Numeral.isDigit
  if digits.length = 0 ∨ digits.length > 3 then none
  else if digits.length > 1 ∧ digits.head? = some '0' then none
  else
    let n := Numeral.natOfDigits digits
    if n < 256 then some (n, rest) else none

def ipv4? (cs : List Char) : Option (IpAddr × List Char) := do
  let (a, cs) ← octet? cs
  let cs ← expect? '.' cs
  let (b, cs) ← octet? cs
  let cs ← expect? '.' cs
  let (c, cs) ← octet? cs
  let cs ← expect? '.' cs
  let (d, cs) ← octet? cs
  some (.v4 a b c d, cs)

/-- A group of up to four hexadecimal digits. -/
def group? (cs : List Char) : Option (Nat × List Char) :=
  let (digits, rest) := cs.span fun c => (Hex.value? c).isSome
  if digits.length = 0 ∨ digits.length > 4 then none
  else some (digits.foldl (fun n c => n * 16 + (Hex.value? c).getD 0) 0, rest)

/-- Skip the colon in front of every group but the first. -/
def separator? (first : Bool) (cs : List Char) : Option (List Char) :=
  if first then some cs else expect? ':' cs

/-- Up to `limit` groups, and whether the last two of them were spelled as version 4. -/
def groups : (limit : Nat) → (first : Bool) → List Char → List Nat × Bool × List Char
  | 0, _, cs => ([], false, cs)
  | limit + 1, first, cs =>
    match (if limit = 0 then none else (separator? first cs).bind ipv4?) with
    | some (.v4 a b c d, rest) => ([a * 256 + b, c * 256 + d], true, rest)
    | _ =>
      match (separator? first cs).bind group? with
      | some (g, rest) =>
        let (more, v4, rest) := groups limit false rest
        (g :: more, v4, rest)
      | none => ([], false, cs)

def ipv6? (cs : List Char) : Option (IpAddr × List Char) :=
  let (front, v4, rest) := groups 8 true cs
  if front.length = 8 then some (.v6 front, rest)
  else if v4 then none
  else
    match rest with
    | ':' :: ':' :: rest =>
      let (back, _, rest) := groups (7 - front.length) true rest
      some (.v6 (front ++ List.replicate (8 - front.length - back.length) 0 ++ back), rest)
    | _ => none

/-- A decimal number below `bound`; leading zeros are allowed. -/
def number? (bound : Nat) (cs : List Char) : Option (Nat × List Char) :=
  let (digits, rest) := cs.span Numeral.isDigit
  if digits.isEmpty then none
  else
    let n := Numeral.natOfDigits digits
    if n < bound then some (n, rest) else none

def port? (cs : List Char) : Option (Nat × List Char) :=
  (expect? ':' cs).bind (number? 65536)

/-- The scope of an address of version 6, if it has one. -/
def skipScope (cs : List Char) : List Char :=
  match (expect? '%' cs).bind (number? 0x100000000) with
  | some (_, rest) => rest
  | none => cs

/-- An IP address and a port. -/
def socketAddress? (text : String) : Option (IpAddr × Nat) :=
  let v4 := do
    let (ip, cs) ← ipv4? text.toList
    let (port, cs) ← port? cs
    if cs.isEmpty then some (ip, port) else none
  let v6 := do
    let cs ← expect? '[' text.toList
    let (ip, cs) ← ipv6? cs
    let cs ← expect? ']' (skipScope cs)
    let (port, cs) ← port? cs
    if cs.isEmpty then some (ip, port) else none
  v4 <|> v6

/-! ## Text -/

/-- A number in lower-case hexadecimal. -/
def hexDigits (n : Nat) : List Char :=
  if n < 16 then [Hex.digit n] else hexDigits (n / 16) ++ [Hex.digit (n % 16)]

def dotted (a b c d : Nat) : String :=
  ".".intercalate ([a, b, c, d].map Numeral.natText)

def joinGroups (groups : List Nat) : String :=
  ":".intercalate (groups.map fun g => String.ofList (hexDigits g))

/-- The start and the length of the longest run of zeros; of several, the first. The run that ends
in front of `index` has the length `run`. -/
def longestZeros : (index run : Nat) → (best : Nat × Nat) → List Nat → Nat × Nat
  | _, _, best, [] => best
  | index, run, best, g :: rest =>
    if g = 0 then
      let run := run + 1
      longestZeros (index + 1) run (if run > best.2 then (index + 1 - run, run) else best) rest
    else longestZeros (index + 1) 0 best rest

/-- The canonical text of an address. -/
def IpAddr.text : IpAddr → String
  | v4 a b c d => dotted a b c d
  | v6 [0, 0, 0, 0, 0, 0xFFFF, high, low] =>
    "::ffff:" ++ dotted (high / 256) (high % 256) (low / 256) (low % 256)
  | v6 groups =>
    let (start, run) := longestZeros 0 0 (0, 0) groups
    if run > 1 then joinGroups (groups.take start) ++ "::" ++ joinGroups (groups.drop (start + run))
    else joinGroups groups

end Gatehouse.Net
