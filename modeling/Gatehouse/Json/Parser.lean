import Gatehouse.Json.Basic
import Gatehouse.Number.Shortest
import Gatehouse.Text.Bytes
import Gatehouse.Text.Hex

/-!
Reading JSON text.

The grammar is the strict one: four characters of white space, no lone surrogates, no raw control
characters in strings, nothing after the value, and at most 127 containers inside one another. The
functions over characters return what they read and the characters after it; `fuel` is at least the
number of characters left and never runs out.
-/

namespace Gatehouse.Json

/-- How deep containers may be nested. -/
def maxDepth : Nat := 127

def isSpace (c : Char) : Bool :=
  c == ' ' || c == '\n' || c == '\t' || c == '\r'

def skipSpace (cs : List Char) : List Char :=
  cs.dropWhile isSpace

/-! ## Strings -/

/-- The value of four hexadecimal digits. -/
def hex4 (a b c d : Char) : Option Nat := do
  let a ← Hex.value? a
  let b ← Hex.value? b
  let c ← Hex.value? c
  let d ← Hex.value? d
  some (((a * 16 + b) * 16 + c) * 16 + d)

/-- The character of an escape of one letter. -/
def shortEscape? (c : Char) : Option Char :=
  if c = '"' ∨ c = '\\' ∨ c = '/' then some c
  else if c = 'b' then some (Char.ofNat 8)
  else if c = 'f' then some (Char.ofNat 12)
  else if c = 'n' then some '\n'
  else if c = 'r' then some '\r'
  else if c = 't' then some '\t'
  else none

/-- The characters of a string up to its closing quote, behind those in `seen`, which are in reverse
order. -/
def stringBody (seen : List Char) : List Char → Option (String × List Char)
  | [] => none
  | '"' :: rest => some (String.ofList seen.reverse, rest)
  | '\\' :: 'u' :: a :: b :: c :: d :: rest =>
    match hex4 a b c d with
    | none => none
    | some unit =>
      if unit < 0xD800 ∨ 0xDFFF < unit then stringBody (Char.ofNat unit :: seen) rest
      else if 0xDC00 ≤ unit then none
      else
        match rest with
        | '\\' :: 'u' :: e :: f :: g :: h :: rest =>
          match hex4 e f g h with
          | none => none
          | some low =>
            if 0xDC00 ≤ low ∧ low ≤ 0xDFFF then
              let point := 0x10000 + (unit - 0xD800) * 0x400 + (low - 0xDC00)
              stringBody (Char.ofNat point :: seen) rest
            else none
        | _ => none
  | '\\' :: c :: rest =>
    match shortEscape? c with
    | some c => stringBody (c :: seen) rest
    | none => none
  | c :: rest => if c.toNat < 32 ∨ c = '\\' then none else stringBody (c :: seen) rest

/-! ## Numbers -/

/-- Append digits to a number as long as it stays below `2 ^ 64`; the digits left over follow. -/
def absorbDigits (n : Nat) : List Char → Nat × List Char
  | [] => (n, [])
  | c :: cs =>
    let next := n * 10 + (c.toNat - 48)
    if next < 0x10000000000000000 then absorbDigits next cs else (n, c :: cs)

/-- Divide by `10 ^ k`, a factor of at most `10 ^ 308` at a time. -/
def scaleDown (x : Double) (k : Nat) : Double :=
  if k ≤ 308 then x.div (Double.ofNat (Nat.pow 10 k))
  else if x.isZero then x
  else scaleDown (x.div (Double.ofNat (Nat.pow 10 308))) (k - 308)
  termination_by k

/-- The double for `n · 10 ^ e`: one rounding for `n`, one for the power and one for their product
or quotient. A number that is too large for a double is none. -/
def scaled? (n : Nat) (e : Int) : Option Double :=
  if e < 0 then some (scaleDown (Double.ofNat n) e.natAbs)
  else if n = 0 then some Double.zero
  else if e ≤ 308 then
    let x := (Double.ofNat n).mul (Double.ofNat (Nat.pow 10 e.toNat))
    if x.isInfinite then none else some x
  else none

/-- A number as its digits spell it. -/
structure Literal where
  negative : Bool
  whole : List Char
  fraction : Option (List Char)
  exponent : Option Int

/-- The number a literal denotes. Without fraction and exponent it is an integer, if a word of 64
bits holds it. Otherwise it is a double, of as many leading digits as a word of 64 bits holds. -/
def Literal.number? (l : Literal) : Option JsonNumber :=
  let sign (x : Double) : JsonNumber := .double (if l.negative then x.neg else x)
  let (start, leftWhole) := absorbDigits 0 l.whole
  if leftWhole.isEmpty ∧ l.fraction.isNone ∧ l.exponent.isNone then
    if l.negative then
      if 0 < start ∧ start ≤ 0x8000000000000000 then some (.int (-start))
      else some (sign (Double.ofNat start))
    else some (.int start)
  else
    let fraction := l.fraction.getD []
    let (significand, leftFraction) := absorbDigits start fraction
    let used : Int := fraction.length - leftFraction.length
    (scaled? significand (leftWhole.length - used + l.exponent.getD 0)).map sign

/-- One digit or more. -/
def digits1 (cs : List Char) : Option (List Char × List Char) :=
  match cs.span Numeral.isDigit with
  | ([], _) => none
  | (ds, rest) => some (ds, rest)

/-- The digits before the point: a zero alone, or a row of digits that starts with another. -/
def wholeDigits : List Char → Option (List Char × List Char)
  | '0' :: rest => some (['0'], rest)
  | cs => digits1 cs

/-- The digits after a point, if there is a point. -/
def fractionDigits : List Char → Option (Option (List Char) × List Char)
  | '.' :: rest => (digits1 rest).map fun (ds, rest) => (some ds, rest)
  | cs => some (none, cs)

/-- The exponent, if there is one. -/
def exponentPart : List Char → Option (Option Int × List Char)
  | c :: rest =>
    if c = 'e' ∨ c = 'E' then
      match rest with
      | '-' :: rest => (digits1 rest).map fun (ds, rest) => (some (-Numeral.natOfDigits ds), rest)
      | '+' :: rest => (digits1 rest).map fun (ds, rest) => (some (Numeral.natOfDigits ds), rest)
      | rest => (digits1 rest).map fun (ds, rest) => (some (Numeral.natOfDigits ds), rest)
    else some (none, c :: rest)
  | [] => some (none, [])

/-- A number without its sign, and the characters after it. -/
def unsignedNumber (negative : Bool) (cs : List Char) : Option (JsonNumber × List Char) :=
  match wholeDigits cs with
  | none => none
  | some (whole, rest) =>
    match fractionDigits rest with
    | none => none
    | some (fraction, rest) =>
      match exponentPart rest with
      | none => none
      | some (exponent, rest) =>
        match (Literal.mk negative whole fraction exponent).number? with
        | none => none
        | some n => some (n, rest)

def number : List Char → Option (JsonNumber × List Char)
  | '-' :: rest => unsignedNumber true rest
  | cs => unsignedNumber false cs

/-! ## Values -/

mutual

/-- A value that starts at the first character, in which containers may be nested `depth` deep. -/
def value : (fuel depth : Nat) → List Char → Option (Json × List Char)
  | 0, _, _ => none
  | fuel + 1, depth, cs =>
    match cs with
    | 'n' :: 'u' :: 'l' :: 'l' :: rest => some (.null, rest)
    | 't' :: 'r' :: 'u' :: 'e' :: rest => some (.bool true, rest)
    | 'f' :: 'a' :: 'l' :: 's' :: 'e' :: rest => some (.bool false, rest)
    | '"' :: rest =>
      match stringBody [] rest with
      | some (s, rest) => some (.str s, rest)
      | none => none
    | '[' :: rest =>
      match depth with
      | 0 => none
      | depth + 1 =>
        match skipSpace rest with
        | ']' :: rest => some (.arr [], rest)
        | rest => elements fuel depth [] rest
    | '\x7b' :: rest =>
      match depth with
      | 0 => none
      | depth + 1 =>
        match skipSpace rest with
        | '\x7d' :: rest => some (.obj [], rest)
        | rest => members fuel depth [] rest
    | cs =>
      match number cs with
      | some (n, rest) => some (.num n, rest)
      | none => none

/-- The elements of an array from the next one to its closing bracket, behind those in `seen`, which
are in reverse order. -/
def elements : (fuel depth : Nat) → List Json → List Char → Option (Json × List Char)
  | 0, _, _, _ => none
  | fuel + 1, depth, seen, cs =>
    match value fuel depth cs with
    | none => none
    | some (v, rest) =>
      match skipSpace rest with
      | ']' :: rest => some (.arr (v :: seen).reverse, rest)
      | ',' :: rest => elements fuel depth (v :: seen) (skipSpace rest)
      | _ => none

/-- The members of an object from the next one to its closing brace, added to those in `seen`. -/
def members : (fuel depth : Nat) → List (String × Json) → List Char → Option (Json × List Char)
  | 0, _, _, _ => none
  | fuel + 1, depth, seen, cs =>
    match cs with
    | '"' :: rest =>
      match stringBody [] rest with
      | none => none
      | some (name, rest) =>
        match skipSpace rest with
        | ':' :: rest =>
          match value fuel depth (skipSpace rest) with
          | none => none
          | some (v, rest) =>
            let seen := Entries.insert name v seen
            match skipSpace rest with
            | '\x7d' :: rest => some (.obj seen, rest)
            | ',' :: rest => members fuel depth seen (skipSpace rest)
            | _ => none
        | _ => none
    | _ => none

end

/-- The value that a text holds, with white space around it at most. -/
def ofChars? (cs : List Char) : Option Json :=
  match value (cs.length + 1) maxDepth (skipSpace cs) with
  | some (v, rest) => if (skipSpace rest).isEmpty then some v else none
  | none => none

def parse? (text : String) : Option Json :=
  ofChars? text.toList

/-- The value that a UTF-8 text holds. -/
def ofBytes? (bytes : Bytes) : Option Json :=
  (Bytes.text? bytes).bind parse?

end Gatehouse.Json
