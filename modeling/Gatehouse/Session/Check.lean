import Gatehouse.Exchange.Basic
import Gatehouse.Wire.Argument

/-!
Asking the session service about a client.

The service is sent the envelope of the request without its arguments. If it does not answer, or
refuses, the request goes on without a session.
-/

namespace Gatehouse.Session

/-- The inner call that asks about a session. -/
def checkSelector : String := "checksession"

/-- The request that asks about the session of an envelope. -/
def checkRequest (envelope : Envelope) : Envelope :=
  { envelope with
    args := ∅
    inner := some { param := some checkSelector, method := some "GET" } }

/-- The envelope after the session service's answer to the request about it: the session that came
back, and over that the session in the data. -/
def attach (envelope : Envelope) (answer : Except Fault (Reply × Envelope)) : Envelope :=
  match answer with
  | .error _ => envelope
  | .ok (reply, asked) =>
    let data := membersOfArgs reply.data
    match Entries.get? "httpcode" data with
    | some _ => envelope
    | none => apply (echo envelope asked) data

/-- Ask a service about the session of an envelope. -/
def check (context : CallContext) (service : String) (envelope : Envelope) : Exchange Envelope := do
  let answer ← Exchange.dispatch context service "GET" (checkRequest envelope)
  return attach envelope answer

end Gatehouse.Session
