import Gatehouse.Net.Tls
import Gatehouse.Retry.Policy
import Gatehouse.Time.Timed
import Gatehouse.Wire.Envelope

/-!
The network between the gateway and its backends.

A network says what comes of everything that the gateway does on it, and after how long. It carries
a state, so that it may do something else every time.
-/

namespace Gatehouse

/-- Where a connection leads. -/
structure Line where
  host : String
  port : String
  deriving DecidableEq, Repr, Inhabited

/-- How a stream of messages ends. -/
inductive StreamEnd where
  /-- It is not opened. -/
  | refused (status : RpcStatus)
  | broken (status : RpcStatus)
  /-- It ends well, after a number of replies. -/
  | finished (replies : Nat)
  deriving DecidableEq, Repr

/-- What becomes of a stream of messages: how many are taken before it is closed, if it is closed
early, and how it ends. -/
structure StreamCourse where
  room : Option Nat := none
  ending : Delayed StreamEnd

/-- What comes of a dial, a call, and a stream. A dial that fails has a reason, and a call that
fails a status. -/
structure Network (σ : Type) where
  dial : Line → Option Net.Credentials → (now : Nat) → σ → Delayed (Except String Unit) × σ
  call : Line → Envelope → (now : Nat) → σ → Delayed (Except RpcStatus Reply) × σ
  stream : Line → (messages : List Envelope) → (now : Nat) → σ → StreamCourse × σ

end Gatehouse
