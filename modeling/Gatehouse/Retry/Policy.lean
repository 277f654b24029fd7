import Gatehouse.Fault
import Gatehouse.Retry.Backoff
import Gatehouse.Time.Timed

/-!
Repeating a call that failed.

A call is attempted again if it failed for a reason that may pass, until its attempts are used up.
Nothing here knows of deadlines: the attempts and the delays between them are steps that take time,
and are given up as a whole. `Attempt.play` makes such steps of a script.
-/

namespace Gatehouse

namespace RpcCode

/-- The reasons that may pass. -/
def isRetryable : RpcCode → Bool
  | unavailable | resourceExhausted | deadlineExceeded => true
  | _ => false

end RpcCode

/-- How a call ended that the backend refused. -/
structure RpcStatus where
  code : RpcCode
  text : String
  deriving DecidableEq, Repr, Inhabited

/-- How often and at what intervals a call is attempted. -/
structure RetryPolicy (α : Type) where
  maxAttempts : Nat
  backoff : Backoff α
  maxAttempts_pos : 0 < maxAttempts

namespace RetryPolicy

variable {α : Type}

/-- A policy with at least one attempt. -/
def ofLimits (maxAttempts : Nat) (backoff : Backoff α) : RetryPolicy α :=
  ⟨max maxAttempts 1, backoff, by omega⟩

/-- The same delays with a single attempt, and so never used. -/
def once (policy : RetryPolicy α) : RetryPolicy α :=
  ⟨1, policy.backoff, by omega⟩

end RetryPolicy

namespace RetryPolicy

variable {α : Type} [Quantity α] {σ β : Type}

/-- The attempts of a call from number `attempt` on. The random parts of the delays are indexed by
the number of the attempt before them, from 1. `budget` is the number of attempts that may still
follow this one, and the last attempt decides. -/
def retryFrom (policy : RetryPolicy α) (jitter : Nat → Nat)
    (call : (attempt : Nat) → Timed σ (Except RpcStatus β)) :
    (budget attempt : Nat) → Timed σ (Except RpcStatus β)
  | 0, attempt => call attempt
  | budget + 1, attempt => do
    match ← call attempt with
    | .ok value => return .ok value
    | .error status =>
      if status.code.isRetryable then
        Timed.wait (policy.backoff.wait attempt (jitter attempt))
        retryFrom policy jitter call budget (attempt + 1)
      else return .error status

/-- All attempts of a call. -/
def retry (policy : RetryPolicy α) (jitter : Nat → Nat)
    (call : (attempt : Nat) → Timed σ (Except RpcStatus β)) : Timed σ (Except RpcStatus β) :=
  policy.retryFrom jitter call (policy.maxAttempts - 1) 1

end RetryPolicy

/-! ## Scripts -/

/-- One attempt of a call: how long it takes, and how it ends. -/
structure Attempt (β : Type) where
  latency : Nat
  result : Except RpcStatus β

/-- Make the attempts that a script foresees, and take down when each starts, the last one first. -/
def Attempt.play {β : Type} (script : (attempt : Nat) → Attempt β) (attempt : Nat) :
    Timed (List Nat) (Except RpcStatus β) := do
  let started ← Timed.now
  Timed.modify (started :: ·)
  Timed.wait (script attempt).latency
  return (script attempt).result

end Gatehouse
