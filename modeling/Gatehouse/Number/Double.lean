/-!
IEEE doubles in exact arithmetic.

A `Double` is its 64 bits. A finite one denotes `± m · 2 ^ q`, and every operation computes its
exact result as a quotient of naturals and then rounds once, to the nearest double and of two to
the one with an even last bit. `nearest` is that rounding; the operations only say what is rounded.
-/

namespace Gatehouse

/-- A double of 64 bits. -/
structure Double where
  bits : UInt64
  deriving DecidableEq, Repr, Inhabited

namespace Double

/-- The bit pattern of plus infinity, as a number. -/
def infinityBits : Nat := 0x7FF0000000000000

def signBit : Nat := 0x8000000000000000

/-- The leading bit of a significand: `2 ^ 52`. -/
def leadingBit : Nat := 0x10000000000000

/-- The double with this sign and these other bits. -/
def ofSignBits (negative : Bool) (bits : Nat) : Double :=
  ⟨UInt64.ofNat (if negative then signBit + bits else bits)⟩

def infinity : Double := ofSignBits false infinityBits

def negInfinity : Double := ofSignBits true infinityBits

def nan : Double := ⟨0x7FF8000000000000⟩

def zero : Double := ⟨0⟩

def isNegative (x : Double) : Bool := x.bits.toNat ≥ signBit

/-- The bits without the sign. -/
def magnitudeBits (x : Double) : Nat := x.bits.toNat % signBit

def isNaN (x : Double) : Bool := x.magnitudeBits > infinityBits

def isInfinite (x : Double) : Bool := x.magnitudeBits == infinityBits

def isZero (x : Double) : Bool := x.magnitudeBits == 0

/-- The whole number `m` of `m · 2 ^ q`. -/
def significand (x : Double) : Nat :=
  let fraction := x.magnitudeBits % leadingBit
  if x.magnitudeBits / leadingBit = 0 then fraction else leadingBit + fraction

/-- The exponent `q` of `m · 2 ^ q`. -/
def exponent (x : Double) : Int :=
  let biased : Nat := x.magnitudeBits / leadingBit
  if biased = 0 then -1074 else (biased : Int) - 1075

/-- The numerator of the magnitude of a finite double. -/
def num (x : Double) : Nat := x.significand * Nat.pow 2 x.exponent.toNat

/-- The denominator of the magnitude of a finite double. -/
def den (x : Double) : Nat := Nat.pow 2 (-x.exponent).toNat

/-- The quotient rounded to a whole number; a half goes to the even neighbour. -/
def roundQuotient (num den : Nat) : Nat :=
  let q := num / den
  let r := num % den
  if 2 * r < den then q
  else if 2 * r > den then q + 1
  else if q % 2 = 0 then q else q + 1

/-- The whole `k` with `2 ^ k ≤ num / den < 2 ^ (k + 1)`. -/
def floorLog2 (num den : Nat) : Int :=
  let k : Int := (num.log2 : Int) - (den.log2 : Int)
  if num * Nat.pow 2 (-k).toNat ≥ den * Nat.pow 2 k.toNat then k else k - 1

/-- The bits of the double nearest to `num / den`, without a sign. -/
def nearestBits (num den : Nat) : Nat :=
  if num = 0 then 0
  else
    let e := max (floorLog2 num den - 52) (-1074)
    let m := roundQuotient (num * Nat.pow 2 (-e).toNat) (den * Nat.pow 2 e.toNat)
    let bits := if m < leadingBit then m else (e + 1075).toNat * leadingBit + (m - leadingBit)
    min bits infinityBits

/-- The double nearest to `± num / den`. -/
def nearest (negative : Bool) (num den : Nat) : Double :=
  ofSignBits negative (nearestBits num den)

def ofNat (n : Nat) : Double := nearest false n 1

def neg (x : Double) : Double := ofSignBits (! x.isNegative) x.magnitudeBits

def mul (x y : Double) : Double :=
  let negative := x.isNegative != y.isNegative
  if x.isNaN || y.isNaN then nan
  else if x.isInfinite || y.isInfinite then
    if x.isZero || y.isZero then nan else ofSignBits negative infinityBits
  else nearest negative (x.num * y.num) (x.den * y.den)

def div (x y : Double) : Double :=
  let negative := x.isNegative != y.isNegative
  if x.isNaN || y.isNaN then nan
  else if x.isInfinite then if y.isInfinite then nan else ofSignBits negative infinityBits
  else if y.isInfinite then ofSignBits negative 0
  else if y.isZero then if x.isZero then nan else ofSignBits negative infinityBits
  else nearest negative (x.num * y.den) (x.den * y.num)

/-- The signed numerator of a finite double. -/
def signedNum (x : Double) : Int :=
  if x.isNegative then -(x.num : Int) else x.num

def add (x y : Double) : Double :=
  if x.isNaN || y.isNaN then nan
  else if x.isInfinite then
    if y.isInfinite && x.isNegative != y.isNegative then nan else x
  else if y.isInfinite then y
  else
    let sum := x.signedNum * y.den + y.signedNum * x.den
    if sum = 0 then ofSignBits (x.isNegative && y.isNegative) 0
    else nearest (sum < 0) sum.natAbs (x.den * y.den)

def sub (x y : Double) : Double := x.add y.neg

/-- The order of numbers. A NaN is in no relation, and the zeros are equal. -/
def le (x y : Double) : Bool :=
  if x.isNaN || y.isNaN then false
  else if x.isInfinite then x.isNegative || (y.isInfinite && ! y.isNegative)
  else if y.isInfinite then ! y.isNegative
  else x.signedNum * y.den ≤ y.signedNum * x.den

def lt (x y : Double) : Bool :=
  x.le y && ! y.le x

/-- The smaller of two; of a NaN and a number, the number. -/
def min (x y : Double) : Double :=
  if x.isNaN then y else if y.isNaN then x else if x.le y then x else y

/-- The larger of two; of a NaN and a number, the number. -/
def max (x y : Double) : Double :=
  if x.isNaN then y else if y.isNaN then x else if y.le x then x else y

/-- The whole part, brought into the range of a word of 64 bits; nothing of a NaN. -/
def floorWord (x : Double) : Nat :=
  if x.isNaN || x.isNegative then 0
  else if x.isInfinite then 0xFFFFFFFFFFFFFFFF
  else Nat.min (x.num / x.den) 0xFFFFFFFFFFFFFFFF

/-- `x ^ n` by squaring, with every product rounded. -/
def powNat (x : Double) (n : Nat) : Double :=
  go n x (ofNat 1) n
where
  /-- `fuel` bounds the number of squarings, and `n` halves with each. -/
  go : Nat → Double → Double → Nat → Double
    | 0, _, acc, _ => acc
    | fuel + 1, square, acc, n =>
      let acc := if n % 2 = 1 then acc.mul square else acc
      if n / 2 = 0 then acc else go fuel (square.mul square) acc (n / 2)

/-- An integer power; a negative one is the inverse of the positive one. -/
def powInt (x : Double) (n : Int) : Double :=
  if n < 0 then (ofNat 1).div (powNat x n.natAbs) else powNat x n.natAbs

end Double

end Gatehouse
