import Gatehouse.Number.Shortest
import Gatehouse.Toml.Basic
import Gatehouse.Toml.Text

/-!
Numbers, dates and times of a TOML document.
-/

namespace Gatehouse.Toml

/-! ## Rows of digits -/

/-- Digits of a kind, with single underscores between them, behind those in `seen`, which are in
reverse order. -/
def digitRow (isDigit : Char → Bool) : (seen : List Char) → List Char → List Char × List Char
  | seen, '_' :: c :: rest =>
    if isDigit c then digitRow isDigit (c :: seen) rest else (seen.reverse, '_' :: c :: rest)
  | seen, c :: rest =>
    if isDigit c then digitRow isDigit (c :: seen) rest else (seen.reverse, c :: rest)
  | seen, [] => (seen.reverse, [])

/-- One digit or more, without the underscores between them. -/
def digits? (isDigit : Char → Bool) : List Char → Option (List Char × List Char)
  | c :: rest => if isDigit c then some (digitRow isDigit [c] rest) else none
  | [] => none

/-- An optional sign: whether it is a minus, and what follows. -/
def sign : List Char → Bool × List Char
  | '+' :: rest => (false, rest)
  | '-' :: rest => (true, rest)
  | cs => (false, cs)

/-- The digits of a decimal integer: a zero alone, or a row that starts with another digit. -/
def decimalDigits? : List Char → Option (List Char × List Char)
  | '0' :: rest => some (['0'], rest)
  | cs => digits? Numeral.isDigit cs

/-! ## Numbers -/

/-- The value of a row of digits to a base. -/
def ofDigits (base : Nat) (digits : List Char) : Nat :=
  digits.foldl (fun n c => n * base + (Hex.value? c).getD 0) 0

def isHexDigit (c : Char) : Bool := (Hex.value? c).isSome

def isOctalDigit (c : Char) : Bool := '0' ≤ c && c ≤ '7'

def isBinaryDigit (c : Char) : Bool := c == '0' || c == '1'

/-- An integer of 64 bits, in decimal with an optional sign or to another base without one. -/
def integer? (cs : List Char) : Option (Toml × List Char) :=
  let based (base : Nat) (isDigit : Char → Bool) (cs : List Char) : Option (Int × List Char) :=
    (digits? isDigit cs).map fun (ds, rest) => ((ofDigits base ds : Int), rest)
  let read := match cs with
    | '0' :: 'x' :: rest => based 16 isHexDigit rest
    | '0' :: 'o' :: rest => based 8 isOctalDigit rest
    | '0' :: 'b' :: rest => based 2 isBinaryDigit rest
    | cs =>
      let (negative, cs) := sign cs
      (decimalDigits? cs).map fun (ds, rest) =>
        let n : Int := ofDigits 10 ds
        (if negative then -n else n, rest)
  match read with
  | some (i, rest) => if Numeral.fitsInt64 i then some (.integer i, rest) else none
  | none => none

/-- The digits behind a point. -/
def fraction? : List Char → Option (List Char × List Char)
  | '.' :: rest => digits? Numeral.isDigit rest
  | _ => none

/-- An exponent. -/
def exponent? : List Char → Option (Int × List Char)
  | c :: rest =>
    if c = 'e' ∨ c = 'E' then
      let (negative, rest) := sign rest
      (digits? Numeral.isDigit rest).map fun (ds, rest) =>
        let n : Int := ofDigits 10 ds
        (if negative then -n else n, rest)
    else none
  | [] => none

/-- A number with a fraction, an exponent or both. One that is above all doubles is refused. -/
def decimal? (cs : List Char) : Option (Toml × List Char) :=
  let (negative, cs) := sign cs
  match decimalDigits? cs with
  | none => none
  | some (whole, rest) =>
    let make (fraction : List Char) (exponent : Int) (rest : List Char) :
        Option (Toml × List Char) :=
      let digits := ofDigits 10 (whole ++ fraction)
      let x := Double.ofDecimal negative ⟨digits, exponent - fraction.length⟩
      if x = Double.infinity then none else some (.float x, rest)
    match fraction? rest with
    | some (fraction, rest) =>
      match exponent? rest with
      | some (exponent, rest) => make fraction exponent rest
      | none => make fraction 0 rest
    | none =>
      match exponent? rest with
      | some (exponent, rest) => make [] exponent rest
      | none => none

/-- An infinity or a NaN. -/
def special? (cs : List Char) : Option (Toml × List Char) :=
  let (negative, cs) := sign cs
  match cs with
  | 'i' :: 'n' :: 'f' :: rest =>
    some (.float (if negative then Double.negInfinity else Double.infinity), rest)
  | 'n' :: 'a' :: 'n' :: rest => some (.float Double.nan, rest)
  | _ => none

/-! ## Dates and times -/

/-- A number of exactly `count` digits within bounds. -/
def fixed? (count low high : Nat) (cs : List Char) : Option (Nat × List Char) :=
  let digits := cs.take count
  if digits.length = count ∧ digits.all Numeral.isDigit then
    let n := Numeral.natOfDigits digits
    if low ≤ n ∧ n ≤ high then some (n, cs.drop count) else none
  else none

/-- A character that has to be there. -/
def expect? (c : Char) : List Char → Option (List Char)
  | d :: rest => if c = d then some rest else none
  | [] => none

def daysIn (year month : Nat) : Nat :=
  if month = 2 then
    if year % 4 = 0 ∧ (year % 100 ≠ 0 ∨ year % 400 = 0) then 29 else 28
  else if month = 4 ∨ month = 6 ∨ month = 9 ∨ month = 11 then 30
  else 31

def date? (cs : List Char) : Option (List Char) := do
  let (year, cs) ← fixed? 4 0 9999 cs
  let cs ← expect? '-' cs
  let (month, cs) ← fixed? 2 1 12 cs
  let cs ← expect? '-' cs
  let (_, cs) ← fixed? 2 1 (daysIn year month) cs
  some cs

def time? (cs : List Char) : Option (List Char) := do
  let (_, cs) ← fixed? 2 0 23 cs
  let cs ← expect? ':' cs
  let (_, cs) ← fixed? 2 0 59 cs
  let cs ← expect? ':' cs
  let (_, cs) ← fixed? 2 0 60 cs
  match cs with
  | '.' :: rest =>
    match rest.span Numeral.isDigit with
    | ([], _) => some cs
    | (_, rest) => some rest
  | _ => some cs

/-- The distance of a time from universal time, if it is given. -/
def offset (cs : List Char) : List Char :=
  match cs with
  | 'Z' :: rest => rest
  | 'z' :: rest => rest
  | c :: rest =>
    if c = '+' ∨ c = '-' then
      let read := do
        let (_, rest) ← fixed? 2 0 23 rest
        let rest ← expect? ':' rest
        let (_, rest) ← fixed? 2 0 59 rest
        some rest
      read.getD cs
    else cs
  | [] => []

/-- A date, a time, or a date and a time with an optional offset. -/
def moment? (cs : List Char) : Option (Toml × List Char) :=
  match date? cs with
  | some rest =>
    match rest with
    | c :: after =>
      if c = 'T' ∨ c = 't' ∨ c = ' ' then
        match time? after with
        | some rest => some (.moment, offset rest)
        | none => some (.moment, rest)
      else some (.moment, rest)
    | [] => some (.moment, [])
  | none => (time? cs).map fun rest => (.moment, rest)

/-- A value that starts with a sign, a digit or the name of a special number. -/
def number? (cs : List Char) : Option (Toml × List Char) :=
  moment? cs <|> decimal? cs <|> special? cs <|> integer? cs

end Gatehouse.Toml
