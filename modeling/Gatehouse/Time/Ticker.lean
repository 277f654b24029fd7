import Gatehouse.Time.Duration

/-!
Ticks at regular intervals.

The first tick comes one period after the start. A tick that is missed stays due, so the ticks do
not drift.
-/

namespace Gatehouse

/-- The next tick, and the time between two ticks. -/
structure Ticker where
  next : Nat
  period : Nat
  period_pos : 0 < period
  deriving Repr

namespace Ticker

/-- A ticker that starts now. There are no ticks without a time between them. -/
def start? (now : Nat) (period : Nat) : Option Ticker :=
  if h : 0 < period then some ⟨now + period, period, h⟩ else none

/-- The ticker after its next tick. -/
def advance (t : Ticker) : Ticker :=
  { t with next := t.next + t.period }

/-- The ticks before a moment, in order, and the ticker afterwards. -/
def before (t : Ticker) (limit : Nat) : List Nat × Ticker :=
  if t.next < limit then
    let (ticks, rest) := t.advance.before limit
    (t.next :: ticks, rest)
  else ([], t)
termination_by limit - t.next
decreasing_by
  have := t.period_pos
  simp only [advance]
  omega

/-- The ticks up to a moment, that moment included. -/
def upTo (t : Ticker) (last : Nat) : List Nat × Ticker :=
  t.before (last + 1)

theorem lt_of_mem_before {ticker : Ticker} {limit moment : Nat}
    (member : moment ∈ (ticker.before limit).1) : moment < limit := by
  induction ticker using before.induct limit with
  | case1 ticker due _ _ _ ih =>
    rw [before, if_pos due] at member
    rcases List.mem_cons.mp member with rfl | later
    · exact due
    · exact ih later
  | case2 ticker notDue =>
    rw [before, if_neg notDue] at member
    cases member

end Ticker

end Gatehouse
