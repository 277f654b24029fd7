import Gatehouse.Fault
import Gatehouse.Time.Timed

/-!
Deadlines of calls.

Work under a deadline either ends in time, and at the deadline is still in time, or is given up at
the deadline. Work that needs no time at all is done even if its deadline has passed.
-/

namespace Gatehouse

namespace Deadline

/-- The deadline of a call that begins at `now`: its own timeout, or that of its caller if that is
sooner. -/
def effective (timeout : Nat) (caller : Option Nat) (now : Nat) : Nat :=
  match caller with
  | some deadline => if deadline < now + timeout then deadline else now + timeout
  | none => now + timeout

/-- Work for a service under a deadline. Given up, it is a timeout after the time it was given. -/
def enforce {σ α : Type} (service : String) (deadline : Nat) (work : Timed σ (Except Fault α)) :
    Timed σ (Except Fault α) := do
  let started ← Timed.now
  work.upTo deadline (.error (.timeout service (deadline - started)))

end Deadline

end Gatehouse
