import Gatehouse.Security.Limiter
import Gatehouse.Time.Ticker

/-!
A limiter on a clock, with the task that drops full buckets in the background.
-/

namespace Gatehouse

/-- A limiter on a clock. -/
structure LimiterSchedule (α : Type) where
  now : Nat := 0
  limiter : Limiter α
  sweeper : Option Ticker := none

namespace LimiterSchedule

variable {α : Type} [Quantity α]

/-- A limiter at the start of the clock. Without a period there is no task. -/
def start (limiter : Limiter α) (period : Option Nat) : LimiterSchedule α :=
  { limiter, sweeper := period.bind (Ticker.start? 0) }

/-- Whether a request of a client passes. -/
def check (s : LimiterSchedule α) (client : String) : Bool × LimiterSchedule α :=
  let (passes, limiter) := s.limiter.check client s.now
  (passes, { s with limiter })

/-- Drop the buckets that are full; how many there were. -/
def evict (s : LimiterSchedule α) : Nat × LimiterSchedule α :=
  let limiter := s.limiter.evict s.now
  (s.limiter.buckets.size - limiter.buckets.size, { s with limiter })

/-- Let time pass. The task has had its turn if it is due at the end. -/
def sleep (s : LimiterSchedule α) (length : Nat) : LimiterSchedule α :=
  let now := s.now + length
  match s.sweeper with
  | none => { s with now }
  | some ticker =>
    let (ticks, ticker) := ticker.upTo now
    { now, limiter := ticks.foldl Limiter.evict s.limiter, sweeper := some ticker }

/-- Stop the task. -/
def stop (s : LimiterSchedule α) : LimiterSchedule α :=
  { s with sweeper := none }

end LimiterSchedule

end Gatehouse
