import Gatehouse.Dict
import Gatehouse.Fault
import Gatehouse.Metrics

/-!
Channels to backends that are kept and used again.

The pool holds at most one channel for an address. A channel in the pool is handed out again until
it expires or a call over it fails; then it is closed and another one is dialed. Dialing takes time,
and nothing is locked meanwhile: getting a channel is a beginning that finds one or starts to dial,
and an end that puts the dialed channel in place of whatever is there by then.

All holders of a channel share its state, so the pool keeps the state of every channel that it has
ever handed out. A channel is named by its position among them.
-/

namespace Gatehouse

/-- The state of a channel. Once it is closed it stays closed. -/
inductive ChannelState where
  | ready
  /-- A call over it has failed. -/
  | failing
  | closed
  deriving DecidableEq, Repr, Inhabited

def ChannelState.word : ChannelState → String
  | ready => "Ready"
  | failing => "TransientFailure"
  | closed => "Shutdown"

/-- A channel to an address, with the line that was dialed for it. -/
structure Channel (γ : Type) where
  address : String
  line : γ
  state : ChannelState
  deriving Repr

namespace Pool

/-- A channel in the pool, and when it expires. -/
structure Entry where
  channel : Nat
  expiry : Nat
  deriving DecidableEq, Repr

end Pool

/-- Channels by address, and all channels ever dialed. -/
structure Pool (γ : Type) where
  ttl : Nat
  entries : Dict Pool.Entry := ∅
  channels : List (Channel γ) := []

namespace Pool

variable {γ : Type}

def size (pool : Pool γ) : Nat := pool.entries.size

/-- The number of channels that are in the pool now, as it is recorded. -/
def sizeEvent (pool : Pool γ) : Metrics.Event := .poolSize pool.size

/-- The state of a channel. -/
def state? (pool : Pool γ) (channel : Nat) : Option ChannelState :=
  (pool.channels[channel]?).map (·.state)

def isReady (pool : Pool γ) (channel : Nat) : Bool :=
  pool.state? channel == some .ready

/-- Change the state of a channel, for all who hold it. -/
def setState (pool : Pool γ) (channel : Nat) (state : ChannelState) : Pool γ :=
  { pool with channels := pool.channels.modify channel fun c => { c with state } }

def close (pool : Pool γ) (channel : Nat) : Pool γ :=
  pool.setState channel .closed

/-- A call over a channel failed. A channel that is closed stays closed. -/
def markFailing (pool : Pool γ) (channel : Nat) : Pool γ :=
  if pool.isReady channel then pool.setState channel .failing else pool

/-- Take note of how a call over a channel ended. -/
def observe (pool : Pool γ) (channel : Nat) (code : RpcCode) : Pool γ :=
  if code = .unavailable then pool.markFailing channel else pool

/-! ## Getting a channel -/

def addressOf (host port : String) : String := host ++ ":" ++ port

def Entry.isExpired (entry : Entry) (now : Nat) : Bool := entry.expiry ≤ now

/-- What the pool has for an address. -/
inductive Found where
  | nothing
  | fit (channel : Nat)
  /-- The channel has expired, or is not ready. -/
  | unfit (channel : Nat)
  deriving DecidableEq, Repr

/-- Look for a channel to an address. -/
def find (pool : Pool γ) (address : String) (now : Nat) : Found :=
  match pool.entries.get? address with
  | none => .nothing
  | some entry =>
    if ! entry.isExpired now && pool.isReady entry.channel then .fit entry.channel
    else .unfit entry.channel

/-- Whether a channel is the one that the pool holds for an address. -/
def holds (pool : Pool γ) (address : String) (channel : Nat) : Bool :=
  (pool.entries.get? address).any fun entry => entry.channel == channel

/-- Take a channel out of the pool and close it, unless another one is in its place by now. -/
def discard (pool : Pool γ) (address : String) (channel : Nat) : Pool γ :=
  if pool.holds address channel then
    { pool.close channel with entries := pool.entries.erase address }
  else pool

/-- The beginning of getting a channel. -/
inductive Acquisition where
  | refused (fault : Fault)
  | reused (channel : Nat)
  /-- A channel to the address has to be dialed. -/
  | dialing (address : String)
  deriving Repr

/-- Find a channel to an address that is fit for use. Any other is discarded. -/
def beginAcquire (pool : Pool γ) (host port : String) (now : Nat) : Acquisition × Pool γ :=
  let address := addressOf host port
  if host.isEmpty || port.isEmpty then
    (.refused (.connection address "empty host or port"), pool)
  else
    match pool.find address now with
    | .nothing => (.dialing address, pool)
    | .fit channel => (.reused channel, pool)
    | .unfit channel => (.dialing address, pool.discard address channel)

/-- Close the channel that the pool holds for an address, if there is one. -/
def closeCurrent (pool : Pool γ) (address : String) : Pool γ :=
  match pool.entries.get? address with
  | some entry => pool.close entry.channel
  | none => pool

/-- Put a dialed channel into the pool, in place of what it holds for the address by now. -/
def insert (pool : Pool γ) (address : String) (line : γ) (now : Nat) : Nat × Pool γ :=
  let channel := pool.channels.length
  let pool := pool.closeCurrent address
  (channel,
    { pool with
      channels := pool.channels ++ [⟨address, line, .ready⟩]
      entries := pool.entries.insert address ⟨channel, now + pool.ttl⟩ })

/-- The end of getting a channel that had to be dialed: the channel, the pool, and what is
recorded. -/
def endAcquire (pool : Pool γ) (address : String) (dialed : Except Fault γ) (now : Nat) :
    Except Fault Nat × Pool γ × List Metrics.Event :=
  match dialed with
  | .error fault => (.error fault, pool, [.dial false])
  | .ok line =>
    let (channel, pool) := pool.insert address line now
    (.ok channel, pool, [.dial true, pool.sizeEvent])

/-! ## Clearing the pool -/

/-- Close channels one after the other. -/
def closeEach (pool : Pool γ) (channels : List Nat) : Pool γ :=
  channels.foldl close pool

/-- Close and drop the channels that have expired. -/
def evict (pool : Pool γ) (now : Nat) : Pool γ :=
  let expired := pool.entries.entries.filter fun e => e.2.isExpired now
  { pool.closeEach (expired.map fun e => e.2.channel) with
    entries := pool.entries.filter fun _ entry => ! entry.isExpired now }

/-- Close and drop all channels. -/
def closeAll (pool : Pool γ) : Pool γ :=
  { pool.closeEach (pool.entries.entries.map fun e => e.2.channel) with entries := ∅ }

end Pool

end Gatehouse
