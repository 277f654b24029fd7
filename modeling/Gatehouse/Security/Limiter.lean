import Gatehouse.Config.Basic
import Gatehouse.Number.Quantity

/-!
Limiting the rate of requests by client.

Every client has a bucket of tokens that refills at a constant rate up to a capacity; a request
takes one token, and is refused if there is none. A bucket that is full again may be dropped, since
a client without a bucket starts with a full one.
-/

namespace Gatehouse

namespace Limiter

/-- The tokens that a client had at a moment. -/
structure Bucket (α : Type) where
  tokens : α
  updated : Nat
  deriving Repr

end Limiter

/-- The rate and the capacity of the buckets, and the buckets by client. -/
structure Limiter (α : Type) where
  rate : α
  capacity : α
  buckets : Dict (Limiter.Bucket α) := ∅

namespace Limiter

variable {α : Type} [Quantity α]

/-- A limiter without clients. A capacity of nothing counts as one. -/
def ofRates (perSecond burst : Nat) : Limiter α :=
  { rate := Quantity.ofNat perSecond, capacity := Quantity.ofNat (max burst 1) }

def ofConfig (config : Config.RateLimit) : Limiter α :=
  ofRates config.requestsPerSecond config.burstSize

/-- The tokens of a bucket with what has come in since, not yet cut at the capacity. -/
def refilled (limiter : Limiter α) (bucket : Bucket α) (now : Nat) : α :=
  Quantity.add bucket.tokens (Quantity.mul (Quantity.seconds (now - bucket.updated)) limiter.rate)

/-- The bucket of a client; a full one for a client that has none. -/
def bucketOf (limiter : Limiter α) (client : String) (now : Nat) : Bucket α :=
  (limiter.buckets.get? client).getD ⟨limiter.capacity, now⟩

/-- Refill a bucket and take a token if it holds one; whether it did. -/
def take (limiter : Limiter α) (bucket : Bucket α) (now : Nat) : Bool × Bucket α :=
  let tokens := Quantity.min (limiter.refilled bucket now) limiter.capacity
  if Quantity.le (Quantity.ofNat 1) tokens then
    (true, ⟨Quantity.sub tokens (Quantity.ofNat 1), now⟩)
  else (false, ⟨tokens, now⟩)

/-- Whether a request of a client passes, and the limiter afterwards. -/
def check (limiter : Limiter α) (client : String) (now : Nat) : Bool × Limiter α :=
  let (passes, bucket) := limiter.take (limiter.bucketOf client now) now
  (passes, { limiter with buckets := limiter.buckets.insert client bucket })

/-- Whether a bucket is full again. -/
def isFull (limiter : Limiter α) (bucket : Bucket α) (now : Nat) : Bool :=
  Quantity.le limiter.capacity (limiter.refilled bucket now)

/-- Drop the buckets that are full again. -/
def evict (limiter : Limiter α) (now : Nat) : Limiter α :=
  { limiter with buckets := limiter.buckets.filter fun _ bucket => ! limiter.isFull bucket now }

end Limiter

end Gatehouse
