import Gatehouse.Exchange.Basic
import Gatehouse.Time.Timed

/-!
Exchanges against backends, on a clock.

Backends take time to answer, and carry a state from one message to the next. An exchange takes the
time of its messages and no more, so it is given up like them.
-/

namespace Gatehouse

/-- The backends as an exchange sees them. -/
structure Backend (σ : Type) where
  call : CallContext → (service method : String) → Envelope → Timed σ (Except Fault Reply)
  upload : CallContext → (service : String) → Envelope → Upload.Source →
    Timed σ (Except Fault Upload.Summary)

namespace Exchange

variable {σ α : Type}

/-- Carry out an exchange. `clock` is the time of day at each moment. -/
def run (backend : Backend σ) (clock : Nat → Int) : Exchange α → Timed σ α
  | done value => Timed.pure value
  | .clock next => Timed.now.bind fun now => (next (clock now)).run backend clock
  | call context service method request next =>
    (backend.call context service method request).bind fun result =>
      (next result).run backend clock
  | upload context service template source next =>
    (backend.upload context service template source).bind fun result =>
      (next result).run backend clock

end Exchange

end Gatehouse
