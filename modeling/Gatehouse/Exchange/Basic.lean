import Gatehouse.Fault
import Gatehouse.Session
import Gatehouse.Upload.Source

/-!
Exchanges with backends.

An exchange is what the gateway does as far as backends see it: it ends, or it sends something and
goes on with what comes back. In between it may look at the time of day. It says nothing about how a
message reaches a backend or how long that takes, so the rules on what is sent and when can be read
off the exchange alone.
-/

namespace Gatehouse

/-- What goes along with all that is sent for one request of a client. -/
structure CallContext where
  /-- The name of the client's request. -/
  requestId : String
  /-- When the client is no longer waiting. -/
  deadline : Option Nat := none
  deriving DecidableEq, Repr, Inhabited

/-- An exchange with backends that ends with a value. -/
inductive Exchange (α : Type) where
  | done (value : α)
  /-- Look at the time of day, in seconds. -/
  | clock (next : Int → Exchange α)
  /-- Send a request that is answered with a reply. -/
  | call (context : CallContext) (service method : String) (request : Envelope)
      (next : Except Fault Reply → Exchange α)
  /-- Send files. Each message is the template with other arguments. -/
  | upload (context : CallContext) (service : String) (template : Envelope) (source : Upload.Source)
      (next : Except Fault Upload.Summary → Exchange α)

namespace Exchange

/-- Go on after the end. -/
def bind {α β : Type} (exchange : Exchange α) (after : α → Exchange β) : Exchange β :=
  match exchange with
  | done value => after value
  | clock next => clock fun now => (next now).bind after
  | call context service method request next =>
    call context service method request fun result => (next result).bind after
  | upload context service template source next =>
    upload context service template source fun result => (next result).bind after

instance : Monad Exchange where
  pure := done
  bind := bind

/-- The time of day. -/
def timeOfDay : Exchange Int := clock done

/-- A call whose reply also brings the session of the request up to date. -/
def dispatch (context : CallContext) (service method : String) (request : Envelope) :
    Exchange (Except Fault (Reply × Envelope)) :=
  call context service method request fun result =>
    done (result.map fun reply => (reply, Session.echoReply request reply))

/-- An upload. -/
def send (context : CallContext) (service : String) (template : Envelope)
    (source : Upload.Source) : Exchange (Except Fault Upload.Summary) :=
  upload context service template source done

end Exchange

end Gatehouse
