import Gatehouse.Number.Double
import Gatehouse.Text.Numeral

/-!
The shortest decimal text of a double.

Of all decimals that read back as a given double, `shortest` takes one with the fewest digits, and
of those the nearest. It looks at one digit, then two, and so on: on each grid only the two
neighbours of the double can be the nearest point. A `Layout` then says which exponents are written
out positionally and how the others are marked.
-/

namespace Gatehouse.Double

/-- The decimal number `digits · 10 ^ exponent`. -/
structure Decimal where
  digits : Nat
  exponent : Int
  deriving DecidableEq, Repr

/-- Whether `c · num / den` is at least `low` and at most `high`, each a numerator over `4 · over`;
the ends count if `closed`. -/
def within (closed : Bool) (low high value : Nat) : Bool :=
  if closed then low ≤ value && value ≤ high else low < value && value < high

/-- The two powers of ten `10 ^ e` as a numerator and a denominator. -/
def powerOfTen (e : Int) : Nat × Nat :=
  (Nat.pow 10 e.toNat, Nat.pow 10 (-e).toNat)

/-- The exponent of the first decimal digit of `num / den`. -/
def floorLog10 (num den : Nat) : Int :=
  let guess : Int := floorLog2 num den * 30103 / 100000
  let reaches (e : Int) : Bool :=
    let (up, down) := powerOfTen e
    num * down ≥ den * up
  if reaches (guess + 1) then guess + 1
  else if reaches guess then guess
  else guess - 1

/-- The nearest point with `count` digits that reads back as the double, if one does. -/
def candidate? (x : Double) (first : Int) (count : Nat) : Option Decimal :=
  let unit : Int := first - count + 1
  let (up, down) := powerOfTen unit
  let m := x.significand
  let four (k : Nat) : Nat := k * Nat.pow 2 x.exponent.toNat * down
  let scale (c : Nat) : Nat := 4 * c * up * x.den
  let narrow := m = leadingBit ∧ x.exponent > -1074
  let low := four (if narrow then 4 * m - 1 else 4 * m - 2)
  let high := four (4 * m + 2)
  let value := four (4 * m)
  let below := x.num * down / (x.den * up)
  let above := below + 1
  let fits (c : Nat) : Bool := within (m % 2 == 0) low high (scale c)
  let gapBelow := value - scale below
  let gapAbove := scale above - value
  let nearerBelow := gapBelow < gapAbove || (gapBelow == gapAbove && below % 2 == 0)
  if fits below && (nearerBelow || ! fits above) then some ⟨below, unit⟩
  else if fits above then some ⟨above, unit⟩
  else none

/-- The shortest decimal of the magnitude of a finite double. -/
def shortest (x : Double) : Decimal :=
  if x.isZero then ⟨0, 0⟩
  else
    let first := floorLog10 x.num x.den
    match (List.range 17).findSome? fun k => candidate? x first (k + 1) with
    | some d => d
    | none => ⟨x.num, 0⟩

/-- How decimals are written: the exponents of a first digit that are written out positionally, and
what stands between the `e` and an exponent that is not negative. -/
structure Layout where
  lowest : Int
  highest : Int
  plus : List Char

/-- A row of digits without the zeros at its end, and how many those were. -/
def stripZeros (digits : List Char) : List Char × Nat :=
  let kept := (digits.reverse.dropWhile (· == '0')).reverse
  (kept, digits.length - kept.length)

/-- Write a number that is not zero. -/
def Layout.write (layout : Layout) (d : Decimal) : List Char :=
  let (digits, stripped) := stripZeros (Numeral.digits d.digits)
  let last : Int := d.exponent + stripped
  let first : Int := last + digits.length - 1
  if layout.lowest ≤ first ∧ first ≤ layout.highest then
    if first < 0 then
      '0' :: '.' :: (List.replicate (-first - 1).toNat '0' ++ digits)
    else if last ≥ 0 then
      digits ++ List.replicate last.toNat '0' ++ ['.', '0']
    else
      digits.take (first.toNat + 1) ++ '.' :: digits.drop (first.toNat + 1)
  else
    let mantissa := match digits with
      | [d] => [d]
      | d :: more => d :: '.' :: more
      | [] => []
    mantissa ++ 'e' :: ((if first < 0 then [] else layout.plus) ++ Numeral.intDigits first)

/-- The text of a double: a zero keeps its sign and one decimal. -/
def Layout.text (layout : Layout) (x : Double) : String :=
  if x.isNaN then "NaN"
  else
    let sign := if x.isNegative then ['-'] else []
    if x.isInfinite then String.ofList (sign ++ ['i', 'n', 'f'])
    else if x.isZero then String.ofList (sign ++ ['0', '.', '0'])
    else String.ofList (sign ++ layout.write x.shortest)

/-- Numbers in JSON text: positional from five decimals to sixteen digits, with a sign at every
exponent. -/
def jsonLayout : Layout := ⟨-5, 15, ['+']⟩

/-- The double nearest to `± digits · 10 ^ exponent`. -/
def ofDecimal (negative : Bool) (d : Decimal) : Double :=
  if d.digits = 0 then nearest negative 0 1
  else
    let size : Int := (Numeral.digits d.digits).length + d.exponent
    if size > 400 then ofSignBits negative infinityBits
    else if size < -400 then ofSignBits negative 0
    else
      let (up, down) := powerOfTen d.exponent
      nearest negative (d.digits * up) down

/-- A decimal without a sign: digits with an optional point among them and an optional exponent. -/
def decimal? (cs : List Char) : Option Decimal :=
  let mantissa := cs.takeWhile fun c => c != 'e' && c != 'E'
  let whole := mantissa.takeWhile (· != '.')
  let fraction := (mantissa.dropWhile (· != '.')).drop 1
  let digits := whole ++ fraction
  match Numeral.nat? digits, cs.drop mantissa.length with
  | some n, [] => some ⟨n, -(fraction.length : Int)⟩
  | some n, _ :: exponent => (Numeral.int? exponent).map fun e => ⟨n, e - fraction.length⟩
  | none, _ => none

/-- Read a double: a decimal, `inf` or `nan` in any case, behind an optional sign. -/
def parse? (text : String) : Option Double :=
  let (negative, cs) := match text.toList with
    | '-' :: rest => (true, rest)
    | '+' :: rest => (false, rest)
    | cs => (false, cs)
  let lower := String.ofList (cs.map Char.toLower)
  if lower = "nan" then some nan
  else if lower = "inf" ∨ lower = "infinity" then some (ofSignBits negative infinityBits)
  else (decimal? cs).map (ofDecimal negative)

end Gatehouse.Double
