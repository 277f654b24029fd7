import Gatehouse.Forward.Caller
import Gatehouse.Forward.Network
import Gatehouse.Pool.Basic
import Gatehouse.Registry.Basic

/-!
Getting a connection to a service.

The address of the service is found first, which may mean asking the coordinator over a connection
of its own, and then a connection to that address is taken from the pool or dialed. A question to
the coordinator has a limited time, with the dial that it may need; a dial as such has none.

What only needs channels takes the way of acquiring them as an argument, and `Forwarder.acquire` is
the way there is.
-/

namespace Gatehouse

/-- Something that was sent over a connection. -/
structure Transmission where
  moment : Nat
  channel : Nat
  messages : List Envelope
  deriving DecidableEq, Repr

/-- What all calls share: the registry, the pool, the network, and what was recorded and sent. -/
structure Client (σ : Type) where
  registry : Registry
  pool : Pool Line
  network : σ
  events : List Metrics.Event := []
  sent : List Transmission := []

/-- What the gateway reaches its backends with. -/
structure Forwarder (α σ : Type) where
  caller : Caller α
  gate : Gate
  network : Network σ
  files : Net.Files
  /-- The time of day at each moment. -/
  clock : Nat → Int
  /-- The random part of the delay after each attempt of a call. -/
  jitter : Nat → Nat := fun _ => 0

namespace Client

variable {σ : Type}

def record (events : List Metrics.Event) : Timed (Client σ) Unit :=
  Timed.modify fun client => { client with events := client.events ++ events }

/-- Note that messages are sent over a channel. -/
def transmit (channel : Nat) (messages : List Envelope) : Timed (Client σ) Unit := do
  let now ← Timed.now
  Timed.modify fun client => { client with sent := client.sent ++ [⟨now, channel, messages⟩] }

/-- Take note of how a call over a channel ended. -/
def observe (channel : Nat) (status : RpcStatus) : Timed (Client σ) Unit :=
  Timed.modify fun client => { client with pool := client.pool.observe channel status.code }

/-- Do something on the network. -/
def onNetwork {β : Type} (f : (now : Nat) → σ → β × σ) : Timed (Client σ) β := do
  let now ← Timed.now
  Timed.step fun client =>
    let (value, network) := f now client.network
    (value, { client with network })

/-- Wait for what comes after a length of time. -/
def awaitDelayed {β : Type} (delayed : Delayed β) : Timed (Client σ) β :=
  Timed.await fun _ client => (delayed, client)

/-- Where a channel leads. -/
def line (channel : Nat) : Timed (Client σ) Line := do
  let client ← Timed.state
  return (client.pool.channels[channel]?.map Channel.line).getD default

end Client

namespace Forwarder

variable {α σ : Type}

/-! ## Connections -/

/-- Open a line. -/
def dial (f : Forwarder α σ) (line : Line) : Timed (Client σ) (Except Fault Line) := do
  match f.caller.tls.prepareDial f.files line.host line.port with
  | .error fault => return .error fault
  | .ok credentials =>
    let dialed ← Client.awaitDelayed (← Client.onNetwork (f.network.dial line credentials))
    match dialed with
    | .ok _ => return .ok line
    | .error reason => return .error (.connection (Pool.addressOf line.host line.port) reason)

/-- A channel to an address, from the pool or dialed. -/
def acquire (f : Forwarder α σ) (host port : String) : Timed (Client σ) (Except Fault Nat) := do
  let now ← Timed.now
  let acquisition ← Timed.step fun client =>
    let (acquisition, pool) := client.pool.beginAcquire host port now
    (acquisition, { client with pool })
  match acquisition with
  | .refused fault => return .error fault
  | .reused channel => return .ok channel
  | .dialing address =>
    let dialed ← f.dial ⟨host, port⟩
    let now ← Timed.now
    Timed.step fun client =>
      let (result, pool, events) := client.pool.endAcquire address dialed now
      (result, { client with pool, events := client.events ++ events })

/-- Send a request over a channel, once. -/
def deliver (f : Forwarder α σ) (channel : Nat) (request : Envelope) :
    Timed (Client σ) (Except RpcStatus Reply) := do
  Client.transmit channel [request]
  let line ← Client.line channel
  Client.awaitDelayed (← Client.onNetwork (f.network.call line request))

/-! ## Addresses -/

/-- A way of acquiring channels. -/
abbrev Acquiring (σ : Type) := (host port : String) → Timed (Client σ) (Except Fault Nat)

/-- Ask the coordinator at a location for the location of a service. -/
def askBy (f : Forwarder α σ) (acquire : Acquiring σ) (name : String) (coordinator : Location)
    (service : String) : Timed (Client σ) (Except Fault Location) := do
  match ← acquire coordinator.host coordinator.port with
  | .error fault => return .error fault
  | .ok channel =>
    let now ← Timed.now
    let request := f.gate.stamp (f.clock now) (Coordinator.lookupRequest name service)
    match ← f.deliver channel request with
    | .ok reply => return Coordinator.readReply service reply.data (← Timed.now)
    | .error status =>
      Client.observe channel status
      return .error (.unavailable service ("coordinator call failed: " ++ status.text))

/-- Go through with a lookup. The coordinator has a limited time to answer. -/
def findBy (f : Forwarder α σ) (acquire : Acquiring σ) (service : String) :
    Registry.Lookup → Timed (Client σ) (Except Fault Location)
  | .answered result => return result
  | .ask name coordinator => do
    let registry := (← Timed.state).registry
    (f.askBy acquire name coordinator service).upTo
      ((← Timed.now) + registry.settings.coordinatorTimeout) (.error (registry.overdue service))

/-- Find the address of a service, over channels acquired in some way. -/
def resolveBy (f : Forwarder α σ) (acquire : Acquiring σ) (service : String) :
    Timed (Client σ) (Except Fault Location) := do
  let now ← Timed.now
  let resolution := (← Timed.state).registry.beginResolve service now
  Client.record [resolution.event]
  match resolution with
  | .hit location => return .ok location
  | .miss lookup =>
    let result ← f.findBy acquire service lookup
    let now ← Timed.now
    Timed.step fun client =>
      let (result, registry, events) := client.registry.endResolve service result now
      (result, { client with registry, events := client.events ++ events })

/-- Find the address of a service. -/
def resolve (f : Forwarder α σ) (service : String) : Timed (Client σ) (Except Fault Location) :=
  f.resolveBy f.acquire service

/-- A channel to a service, with all channels acquired in some way. -/
def connectBy (f : Forwarder α σ) (acquire : Acquiring σ) (service : String) :
    Timed (Client σ) (Except Fault Nat) := do
  match ← f.resolveBy acquire service with
  | .error fault => return .error fault
  | .ok location => acquire location.host location.port

/-- A channel to a service. -/
def connect (f : Forwarder α σ) (service : String) : Timed (Client σ) (Except Fault Nat) :=
  f.connectBy f.acquire service

end Forwarder

end Gatehouse
