import Gatehouse.Number.Double
import Gatehouse.Time.Duration

/-!
Amounts that the rules on rates and delays compute with.

The rules are stated once for every kind of amount. The gateway runs them on doubles; on rationals
they give the exact amounts that the doubles approximate.
-/

namespace Gatehouse

/-- A kind of amount. -/
class Quantity (α : Type) where
  ofNat : Nat → α
  /-- A length of time in seconds. -/
  seconds : Nat → α
  add : α → α → α
  sub : α → α → α
  mul : α → α → α
  pow : α → Int → α
  min : α → α → α
  max : α → α → α
  le : α → α → Bool
  /-- The whole part, within the range of a word of 64 bits. -/
  floorWord : α → Nat

/-- Doubles. Whole seconds and the rest are converted apart, and each step rounds. -/
instance : Quantity Double where
  ofNat := Double.ofNat
  seconds d :=
    let second := 1000000000
    (Double.ofNat (d / second)).add ((Double.ofNat (d % second)).div (Double.ofNat second))
  add := Double.add
  sub := Double.sub
  mul := Double.mul
  pow := Double.powInt
  min := Double.min
  max := Double.max
  le := Double.le
  floorWord := Double.floorWord

/-- Exact amounts. -/
instance : Quantity Rat where
  ofNat n := (n : Rat)
  seconds d := (d : Rat) / 1000000000
  add a b := a + b
  sub a b := a - b
  mul a b := a * b
  pow a n := a ^ n
  min a b := if a ≤ b then a else b
  max a b := if b ≤ a then a else b
  le a b := decide (a ≤ b)
  floorWord a := Nat.min a.floor.toNat 0xFFFFFFFFFFFFFFFF

end Gatehouse
