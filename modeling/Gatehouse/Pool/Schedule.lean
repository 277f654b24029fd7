import Gatehouse.Pool.Basic
import Gatehouse.Time.Ticker

/-!
A pool on a clock, with the task that evicts expired channels in the background.

Callers may ask for channels at once. They begin one after the other, and each goes on when its dial
has ended; of two dials that end at the same time, the one goes on first that began first.
-/

namespace Gatehouse

/-- A pool on a clock. What comes of a dial depends on its number, counted from 1, and on its
address. -/
structure PoolSchedule (γ : Type) where
  now : Nat := 0
  pool : Pool γ
  dialer : (number : Nat) → (address : String) → Except Fault γ
  dials : Nat := 0
  evictor : Option Ticker := none
  events : List Metrics.Event := []

namespace PoolSchedule

variable {γ : Type}

/-- An acquisition that waits for its dial, with its place among those that began together. -/
structure Waiting (γ : Type) where
  place : Nat
  address : String
  ends : Nat
  dialed : Except Fault γ

/-- What came of acquisitions, by their places. -/
abbrev Outcomes := List (Nat × Except Fault Nat)

/-- Close the expired channels at each of these moments. -/
def evictEach (s : PoolSchedule γ) (moments : List Nat) : PoolSchedule γ :=
  let pass (sofar : Pool γ × List Metrics.Event) (moment : Nat) :=
    let pool := sofar.1.evict moment
    (pool, pool.sizeEvent :: sofar.2)
  let (pool, newestFirst) := moments.foldl pass (s.pool, [])
  { s with pool, events := s.events ++ newestFirst.reverse }

/-- Everything that the task does before a moment. -/
def advance (s : PoolSchedule γ) (limit : Nat) : PoolSchedule γ :=
  match s.evictor with
  | none => s
  | some ticker =>
    let (ticks, ticker) := ticker.before limit
    { s.evictEach ticks with evictor := some ticker }

/-- Wait for something that comes at a moment, before the task if that is due then. -/
def waitFor (s : PoolSchedule γ) (moment : Nat) : PoolSchedule γ :=
  { s.advance moment with now := moment }

/-- Let time pass. The task has had its turn if it is due at the end. -/
def sleep (s : PoolSchedule γ) (length : Nat) : PoolSchedule γ :=
  { s.advance (s.now + length + 1) with now := s.now + length }

/-- The end of a dial. -/
def endDial (s : PoolSchedule γ) (address : String) (dialed : Except Fault γ) :
    Except Fault Nat × PoolSchedule γ :=
  let (result, pool, events) := s.pool.endAcquire address dialed s.now
  (result, { s with pool, events := s.events ++ events })

/-- Dial an address: what will come of it. -/
def dial (s : PoolSchedule γ) (address : String) : Except Fault γ × PoolSchedule γ :=
  (s.dialer (s.dials + 1) address, { s with dials := s.dials + 1 })

/-- Begin acquisitions one after the other, each with the time that its dial would take: the
outcomes that are there at once, and the acquisitions that wait. -/
def beginEach (s : PoolSchedule γ) (host port : String) (place : Nat) :
    (latencies : List Nat) → Outcomes × List (Waiting γ) × PoolSchedule γ
  | [] => ([], [], s)
  | latency :: rest =>
    let (acquisition, pool) := s.pool.beginAcquire host port s.now
    let s := { s with pool }
    let atOnce (result : Except Fault Nat) (s : PoolSchedule γ) :=
      let (outcomes, waiting, s) := s.beginEach host port (place + 1) rest
      ((place, result) :: outcomes, waiting, s)
    match acquisition with
    | .refused fault => atOnce (.error fault) s
    | .reused channel => atOnce (.ok channel) s
    | .dialing address =>
      let (dialed, s) := s.dial address
      if latency = 0 then
        let (result, s) := s.endDial address dialed
        atOnce result s
      else
        let (outcomes, waiting, s') := s.beginEach host port (place + 1) rest
        (outcomes, ⟨place, address, s.now + latency, dialed⟩ :: waiting, s')

/-- Wait for acquisitions in the order in which their dials end. -/
def endEach (s : PoolSchedule γ) : List (Waiting γ) → Outcomes × PoolSchedule γ
  | [] => ([], s)
  | w :: rest =>
    let (result, s) := (s.waitFor w.ends).endDial w.address w.dialed
    let (outcomes, s) := s.endEach rest
    ((w.place, result) :: outcomes, s)

/-- Acquire channels to an address at once, each with the time that its dial would take. -/
def race (s : PoolSchedule γ) (host port : String) (latencies : List Nat) :
    List (Except Fault Nat) × PoolSchedule γ :=
  let (first, waiting, s) := s.beginEach host port 0 latencies
  let (later, s) := s.endEach (waiting.mergeSort fun a b => a.ends ≤ b.ends)
  (((first ++ later).mergeSort fun a b => a.1 ≤ b.1).map (·.2), s)

/-- Acquire a channel to an address whose dial takes no time. -/
def acquire (s : PoolSchedule γ) (host port : String) : Except Fault Nat × PoolSchedule γ :=
  let (acquisition, pool) := s.pool.beginAcquire host port s.now
  let s := { s with pool }
  match acquisition with
  | .refused fault => (.error fault, s)
  | .reused channel => (.ok channel, s)
  | .dialing address =>
    let (dialed, s) := s.dial address
    s.endDial address dialed

/-- Close the expired channels; how many there were. -/
def evict (s : PoolSchedule γ) : Nat × PoolSchedule γ :=
  let next := s.evictEach [s.now]
  (s.pool.size - next.pool.size, next)

/-- Close all channels. -/
def closeAll (s : PoolSchedule γ) : PoolSchedule γ :=
  let pool := s.pool.closeAll
  { s with pool, events := s.events ++ [pool.sizeEvent] }

/-- Stop the task, which closes all channels. -/
def stop (s : PoolSchedule γ) : PoolSchedule γ :=
  { s.closeAll with evictor := none }

end PoolSchedule

end Gatehouse
