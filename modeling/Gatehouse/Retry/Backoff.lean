import Gatehouse.Number.Quantity
import Gatehouse.Text.Numeral

/-!
Delays between the attempts of a call.

The delay grows by a factor with every failed attempt until it reaches a maximum. A random part of
up to a tenth of the delay is added on top, so that callers that failed together do not come back
together.
-/

namespace Gatehouse

/-- How the delays grow. -/
structure Backoff (α : Type) where
  initial : Nat
  max : Nat
  multiplier : α
  deriving Repr

namespace Backoff

variable {α : Type} [Quantity α]

/-- The growth after a number of failed attempts. A multiplier below one counts as one. The exponent
is a number of 32 bits with a sign, so that it wraps around for a count above `2 ^ 31`. -/
def factor (backoff : Backoff α) (failed : Nat) : α :=
  Quantity.pow (Quantity.max backoff.multiplier (Quantity.ofNat 1))
    (Numeral.wrapInt32 ((failed : Int) - 1))

/-- The delay after a number of failed attempts in whole milliseconds, without its random part. -/
def delay (backoff : Backoff α) (failed : Nat) : Nat :=
  if failed = 0 then 0
  else
    Quantity.floorWord (Quantity.min
      (Quantity.mul (Quantity.ofNat (Duration.millis backoff.initial)) (backoff.factor failed))
      (Quantity.ofNat (Duration.millis backoff.max)))

/-- The random part of a delay is below this. -/
def jitterRange (delay : Nat) : Nat := delay / 10

/-- A random part that may be drawn for a delay: below the range, or nothing if the range is empty.
-/
def IsJitter (delay jitter : Nat) : Prop :=
  jitter = 0 ∨ jitter < jitterRange delay

instance (delay jitter : Nat) : Decidable (IsJitter delay jitter) :=
  inferInstanceAs (Decidable (_ ∨ _))

/-- How long to wait after a number of failed attempts, with a random part. -/
def wait (backoff : Backoff α) (failed jitter : Nat) : Nat :=
  Duration.ofMillis (backoff.delay failed + jitter)

end Backoff

end Gatehouse
