import Gatehouse.Exchange.Run
import Gatehouse.Forward.Client
import Gatehouse.Time.Deadline
import Gatehouse.Upload.Encoder

/-!
Calls and uploads over the network.

Once there is a connection, the deadline of what is done over it is its own timeout or that of the
client's request. For a call it covers all attempts with the delays between them; an upload is
attempted once. The backends that an exchange sees are made of both.
-/

namespace Gatehouse

namespace Forwarder

variable {α σ : Type} [Quantity α]

/-- The request as it goes out: with the method, if it does not name one itself. -/
def outbound (method : String) (request : Envelope) : Envelope :=
  { request with method := some (request.method.getD method) }

/-- The fault of a call that the backend refused after some time. -/
def statusFault (service : String) (status : RpcStatus) (after : Nat) : Fault :=
  if status.code = .deadlineExceeded then .timeout service after
  else .call service status.code status.text

/-- All attempts of a call over a channel. -/
def attempts (f : Forwarder α σ) (service : String) (channel : Nat) (request : Envelope) :
    Timed (Client σ) (Except Fault Reply) := do
  let started ← Timed.now
  match ← f.caller.retry.retry f.jitter fun _ => f.deliver channel request with
  | .ok reply => return .ok reply
  | .error status =>
    Client.observe channel status
    return .error (statusFault service status ((← Timed.now) - started))

/-- Send files over a channel. If a file cannot be read to its end, or the backend does not take all
messages, nothing is waited for any more. -/
def stream (f : Forwarder α σ) (channel : Nat) (template : Envelope) (source : Upload.Source) :
    Timed (Client σ) (Except Fault Upload.Summary) := do
  let line ← Client.line channel
  let encoder := Upload.pushSource template f.caller.chunkSize source
  let course ← Client.onNetwork (f.network.stream line (Upload.send none encoder).2)
  let (result, accepted) := Upload.send course.room encoder
  Client.transmit channel accepted
  match result with
  | .error fault => return .error fault
  | .ok (files, bytes) =>
    match ← Client.awaitDelayed course.ending with
    | .refused status =>
      Client.observe channel status
      return .error (.upload ("opening stream: " ++ status.text))
    | .broken status =>
      Client.observe channel status
      return .error (.upload ("receiving: " ++ status.text))
    | .finished replies =>
      Client.record [.upload files bytes]
      return .ok ⟨files, bytes, replies⟩

/-- Work over a connection to a service, for which there is a deadline once the connection is there.
-/
def overConnection {β : Type} (f : Forwarder α σ) (acquire : Acquiring σ) (context : CallContext)
    (service : String) (timeout : ServiceTable → String → Nat)
    (work : (channel : Nat) → Timed (Client σ) (Except Fault β)) :
    Timed (Client σ) (Except Fault β) := do
  match ← f.connectBy acquire service with
  | .error fault => return .error fault
  | .ok channel =>
    let length := timeout (← Timed.state).registry.table service
    let deadline := Deadline.effective length context.deadline (← Timed.now)
    Deadline.enforce service deadline (work channel)

/-- Call a service over a channel acquired in some way. -/
def callBy (f : Forwarder α σ) (acquire : Acquiring σ) (context : CallContext)
    (service method : String) (request : Envelope) : Timed (Client σ) (Except Fault Reply) :=
  f.overConnection acquire context service f.caller.callTimeout fun channel =>
    f.attempts service channel (outbound method request)

/-- Call a service. -/
def call (f : Forwarder α σ) (context : CallContext) (service method : String)
    (request : Envelope) : Timed (Client σ) (Except Fault Reply) :=
  f.callBy f.acquire context service method request

/-- Upload files to a service over a channel acquired in some way. -/
def uploadBy (f : Forwarder α σ) (acquire : Acquiring σ) (context : CallContext)
    (service : String) (template : Envelope) (source : Upload.Source) :
    Timed (Client σ) (Except Fault Upload.Summary) :=
  f.overConnection acquire context service f.caller.streamTimeout fun channel =>
    f.stream channel template source

/-- Upload files to a service. -/
def upload (f : Forwarder α σ) (context : CallContext) (service : String) (template : Envelope)
    (source : Upload.Source) : Timed (Client σ) (Except Fault Upload.Summary) :=
  f.uploadBy f.acquire context service template source

/-- The backends, reached over the network. -/
def backend (f : Forwarder α σ) : Backend (Client σ) where
  call := f.call
  upload := f.upload

end Forwarder

end Gatehouse
