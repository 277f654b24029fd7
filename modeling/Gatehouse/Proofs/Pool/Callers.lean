import Gatehouse.Pool.Schedule
import Gatehouse.Proofs.Pool.HandingOut

/-!
Callers of a pool on a clock.

Any number of acquisitions may wait for their dials at once. What comes of a dial depends on its
number and its address alone, so the dialer is the script of a run. Callers see nothing of the pool
but what comes of their acquisitions: that one has to be dialed, a failure, or a channel.
-/

namespace Gatehouse

namespace Pool

variable {γ : Type}

/-- How an acquisition begins is settled by what its look finds. -/
theorem beginAcquire_named {host port : String} (named : ¬ (host = "" ∨ port = ""))
    (pool : Pool γ) (now : Nat) :
    pool.beginAcquire host port now =
      match pool.find (addressOf host port) now with
      | .nothing => (.dialing (addressOf host port), pool)
      | .fit channel => (.reused channel, pool)
      | .unfit channel =>
        (.dialing (addressOf host port), pool.discard (addressOf host port) channel) := by
  unfold beginAcquire
  rw [named_iff.mpr (not_or.mp named)]
  rfl

theorem find_eq_nothing {pool : Pool γ} {address : String} {now : Nat}
    (nothing : pool.find address now = .nothing) : pool.entries.get? address = none := by
  cases held : pool.entries.get? address with
  | none => rfl
  | some entry =>
    rw [find, held] at nothing
    dsimp only at nothing
    split at nothing <;> cases nothing

theorem find_eq_unfit {pool : Pool γ} {address : String} {now number : Nat}
    (unfit : pool.find address now = .unfit number) : pool.holds address number = true := by
  cases held : pool.entries.get? address with
  | none =>
    rw [find, held] at unfit
    cases unfit
  | some entry =>
    rw [find, held] at unfit
    dsimp only at unfit
    split at unfit
    · cases unfit
    · cases unfit
      exact holds_iff.mpr ⟨entry, held, rfl⟩

theorem Kept.beginAcquire {pool : Pool γ} (kept : pool.Kept) (host port : String) (now : Nat) :
    (pool.beginAcquire host port now).2.Kept := by
  rcases pool_beginAcquire pool host port now with same | ⟨address, channel, same⟩
  · rw [same]
    exact kept
  · rw [same]
    exact kept.discard address channel

theorem Kept.observe {pool : Pool γ} (kept : pool.Kept) (channel : Nat) (code : RpcCode) :
    (pool.observe channel code).Kept := by
  rcases pool_observe pool channel code with same | same
  · rw [same]
    exact kept
  · rw [same]
    exact kept.markFailing channel

theorem Kept.evictEach {pool : Pool γ} (kept : pool.Kept) (moments : List Nat) :
    (moments.foldl Pool.evict pool).Kept := by
  induction moments generalizing pool with
  | nil => exact kept
  | cons moment rest ih => exact ih (kept.evict moment)

end Pool

namespace PoolSchedule

variable {γ : Type}

/-! ## What happens -/

/-- What comes of an acquisition. -/
inductive Report (γ : Type) where
  /-- A dial begins for it, with this number. -/
  | dials (number : Nat) (address : String)
  | fails (fault : Fault)
  /-- It gets a channel, which is like this by then. -/
  | gets (number : Nat) (channel : Option (Channel γ))

/-- A pool on a clock, and the acquisitions that have begun so far. -/
structure Callers (γ : Type) where
  schedule : PoolSchedule γ
  /-- The address that an acquisition dials, and what will come of the dial. -/
  dialing : List (Option (String × Except Fault γ)) := []
  /-- What has come of acquisitions so far, by their places. -/
  reports : List (Nat × Report γ) := []

/-- Something that happens to a pool, or a length of time. -/
inductive Turn where
  /-- An acquisition begins. -/
  | acquire (host port : String)
  /-- The dial of an acquisition ends. -/
  | finish (acquisition : Nat)
  /-- A call over a channel ends. -/
  | observe (channel : Nat) (code : RpcCode)
  /-- A call over a channel fails. -/
  | markFailing (channel : Nat)
  | evict
  | closeAll
  | sleep (length : Nat)
  deriving DecidableEq

/-- What a caller is told at the end of an acquisition. -/
def Report.ofResult (pool : Pool γ) : Except Fault Nat → Report γ
  | .error fault => .fails fault
  | .ok channel => .gets channel pool.channels[channel]?

namespace Callers

/-- Put another pool in place. -/
def withPool (callers : Callers γ) (pool : Pool γ) : Callers γ :=
  { callers with schedule := { callers.schedule with pool } }

/-- An acquisition begins, and is at its end if there is no need to dial. -/
def acquire (callers : Callers γ) (host port : String) : Callers γ :=
  let (acquisition, pool) := callers.schedule.pool.beginAcquire host port callers.schedule.now
  let schedule := { callers.schedule with pool }
  let place := callers.dialing.length
  let atOnce (result : Except Fault Nat) : Callers γ :=
    { schedule
      dialing := callers.dialing ++ [none]
      reports := callers.reports ++ [(place, .ofResult pool result)] }
  match acquisition with
  | .refused fault => atOnce (.error fault)
  | .reused channel => atOnce (.ok channel)
  | .dialing address =>
    let (dialed, schedule) := schedule.dial address
    { schedule
      dialing := callers.dialing ++ [some (address, dialed)]
      reports := callers.reports ++ [(place, .dials schedule.dials address)] }

/-- The dial of an acquisition ends. Nothing happens if there is no such dial. -/
def finish (callers : Callers γ) (place : Nat) : Callers γ :=
  match callers.dialing[place]? with
  | some (some (address, dialed)) =>
    let (result, schedule) := callers.schedule.endDial address dialed
    { schedule
      dialing := callers.dialing.set place none
      reports := callers.reports ++ [(place, .ofResult schedule.pool result)] }
  | _ => callers

def step (callers : Callers γ) : Turn → Callers γ
  | .acquire host port => callers.acquire host port
  | .finish place => callers.finish place
  | .observe channel code => callers.withPool (callers.schedule.pool.observe channel code)
  | .markFailing channel => callers.withPool (callers.schedule.pool.markFailing channel)
  | .evict => { callers with schedule := callers.schedule.evict.2 }
  | .closeAll => { callers with schedule := callers.schedule.closeAll }
  | .sleep length => { callers with schedule := callers.schedule.sleep length }

def run (callers : Callers γ) (turns : List Turn) : Callers γ :=
  turns.foldl step callers

/-- Nobody has asked for a channel yet. -/
def start (ttl : Nat) (dialer : (number : Nat) → (address : String) → Except Fault γ)
    (evictor : Option Ticker) : Callers γ where
  schedule := { pool := { ttl }, dialer, evictor }

end Callers

/-! ## Evictions -/

/-- What is recorded of evictions at some moments. -/
def sizesAfter (pool : Pool γ) : (moments : List Nat) → List Metrics.Event
  | [] => []
  | moment :: rest => (pool.evict moment).sizeEvent :: sizesAfter (pool.evict moment) rest

theorem evictEach_eq (s : PoolSchedule γ) (moments : List Nat) :
    s.evictEach moments =
      { s with
        pool := moments.foldl Pool.evict s.pool
        events := s.events ++ sizesAfter s.pool moments } := by
  have passes (pool : Pool γ) (newestFirst : List Metrics.Event) :
      moments.foldl (fun (sofar : Pool γ × List Metrics.Event) moment =>
        (sofar.1.evict moment, (sofar.1.evict moment).sizeEvent :: sofar.2)) (pool, newestFirst) =
      (moments.foldl Pool.evict pool, (sizesAfter pool moments).reverse ++ newestFirst) := by
    induction moments generalizing pool newestFirst with
    | nil => rfl
    | cons moment rest ih =>
      rw [List.foldl_cons, ih, List.foldl_cons, sizesAfter, List.reverse_cons, List.append_assoc,
        List.singleton_append]
  unfold evictEach
  dsimp only
  rw [passes, List.append_nil, List.reverse_reverse]

/-- The moments before another one at which the task is due. -/
def ticks (s : PoolSchedule γ) (limit : Nat) : List Nat :=
  (s.evictor.map fun ticker => (ticker.before limit).1).getD []

theorem lt_of_mem_ticks {s : PoolSchedule γ} {limit moment : Nat}
    (member : moment ∈ s.ticks limit) : moment < limit := by
  unfold ticks at member
  cases evictor : s.evictor with
  | none =>
    rw [evictor] at member
    cases member
  | some ticker =>
    rw [evictor] at member
    exact Ticker.lt_of_mem_before member

theorem sleep_eq (s : PoolSchedule γ) (length : Nat) :
    s.sleep length =
      { s.evictEach (s.ticks (s.now + length + 1)) with
        evictor := s.evictor.map fun ticker => (ticker.before (s.now + length + 1)).2
        now := s.now + length } := by
  unfold sleep advance ticks
  cases evictor : s.evictor with
  | none =>
    rw [evictEach_eq]
    simp only [Option.map_none, Option.getD_none, List.foldl_nil, sizesAfter, List.append_nil,
      evictor]
  | some ticker => rfl

end PoolSchedule

end Gatehouse
