import Gatehouse.Metrics
import Gatehouse.Registry.Coordinator
import Gatehouse.Registry.Table
import Gatehouse.Text.Quoted

/-!
Finding the address of a service.

An address younger than the time to live is taken from the cache. Any other is looked up: in the
table, or by asking the coordinator, whose own address always comes from the table. An answer of the
coordinator takes time, so finding an address is a beginning, a lookup that may still be going on,
and an end. If the coordinator fails, an address that is too old serves in its place.
-/

namespace Gatehouse

namespace Registry

/-- Where addresses come from. -/
inductive Mode where
  | static
  /-- From the coordinator of this name. -/
  | coordinator (name : String)
  deriving DecidableEq, Repr

def Mode.describe : Mode → String
  | static => "Static"
  | coordinator name => "Coordinator \x7b service: " ++ Text.quoted name ++ ", .. \x7d"

/-- The lengths of time that matter to a registry. -/
structure Settings where
  /-- The age at which an address is no longer taken from the cache. -/
  ttl : Nat
  coordinatorTimeout : Nat
  refreshInterval : Nat
  sweepInterval : Nat
  /-- The age up to which an address is kept. -/
  purgeAfter : Nat
  deriving DecidableEq, Repr

def Settings.ofConfig (config : Config) : Settings where
  ttl := Duration.ofSecs config.registry.ttlSecs
  coordinatorTimeout := Duration.ofSecs config.timeouts.coordinatorSecs
  refreshInterval := Duration.ofSecs config.registry.refreshIntervalSecs
  sweepInterval := Duration.ofSecs config.registry.sweepIntervalSecs
  purgeAfter := Duration.ofSecs config.registry.purgeAfterSecs

def Mode.ofConfig (config : Config) : Mode :=
  match config.registry.mode with
  | .static => .static
  | .coordinator => .coordinator config.registry.coordinatorService

end Registry

/-- A source of addresses, the table, and the addresses found so far. -/
structure Registry where
  mode : Registry.Mode
  settings : Registry.Settings
  table : ServiceTable
  cache : LocationCache := ∅

namespace Registry

def ofConfig (config : Config) : Registry where
  mode := Mode.ofConfig config
  settings := Settings.ofConfig config
  table := config.services

/-- Put another table in place of the present one. The cache stays as it is. -/
def reload (registry : Registry) (table : ServiceTable) : Registry :=
  { registry with table }

/-! ## Looking up -/

/-- A lookup as it begins. -/
inductive Lookup where
  /-- The table has the answer. -/
  | answered (result : Except Fault Location)
  /-- The coordinator of this name has to be asked, at this location. -/
  | ask (coordinator : String) (location : Location)

/-- Begin to look up a service, whatever the cache holds. -/
def lookup (registry : Registry) (service : String) (now : Nat) : Lookup :=
  match registry.mode with
  | .static => .answered (registry.table.lookup service now)
  | .coordinator name =>
    match registry.table.lookup name now with
    | .error fault => .answered (.error fault)
    | .ok location => if service = name then .answered (.ok location) else .ask name location

/-- How the coordinator answers: how long it takes, if it answers at all, and what it then says. -/
structure Answer where
  latency : Option Nat
  read : (ended : Nat) → Except Fault Location

/-- The failure of a lookup that took too long. -/
def overdue (registry : Registry) (service : String) : Fault :=
  .unavailable service
    ("coordinator lookup timed out after " ++ Duration.text registry.settings.coordinatorTimeout)

/-- When a lookup begun at `started` is over, and what came of it. The coordinator has a limited
time to answer. -/
def await (registry : Registry) (service : String) (started : Nat) (answer : Answer) :
    Nat × Except Fault Location :=
  let last := started + registry.settings.coordinatorTimeout
  match answer.latency with
  | some latency =>
    let ended := started + latency
    if ended ≤ last then (ended, answer.read ended) else (last, .error (registry.overdue service))
  | none => (last, .error (registry.overdue service))

/-- Keep an address as found now. -/
def store (registry : Registry) (service : String) (location : Location) (now : Nat) : Registry :=
  { registry with cache := registry.cache.store service location now }

/-! ## Finding an address -/

/-- The beginning of finding an address. -/
inductive Resolution where
  | hit (location : Location)
  | miss (lookup : Lookup)

def beginResolve (registry : Registry) (service : String) (now : Nat) : Resolution :=
  match registry.cache.fresh? service registry.settings.ttl now with
  | some location => .hit location
  | none => .miss (registry.lookup service now)

/-- What is recorded at the beginning. -/
def Resolution.event : Resolution → Metrics.Event
  | hit _ => .lookup .hit
  | miss _ => .lookup .miss

/-- The address that stands in for one that could not be looked up. -/
def stale? (registry : Registry) (service : String) : Option Location :=
  match registry.mode with
  | .static => none
  | .coordinator _ => registry.cache.get? service

/-- The end of finding an address: what came of it, the registry afterwards, and what is recorded.
-/
def endResolve (registry : Registry) (service : String) (result : Except Fault Location)
    (now : Nat) : Except Fault Location × Registry × List Metrics.Event :=
  match result with
  | .ok location => (.ok location, registry.store service location now, [])
  | .error fault =>
    match registry.stale? service with
    | some location => (.ok location, registry, [.lookup .stale])
    | none => (.error fault, registry, [.lookup .failed])

/-! ## Keeping addresses -/

/-- The services whose addresses are due to be looked up again. -/
def expired (registry : Registry) (now : Nat) : List String :=
  registry.cache.expired registry.settings.ttl now

/-- Keep an address that was looked up again; a failure changes nothing. -/
def endRefresh (registry : Registry) (service : String) (result : Except Fault Location)
    (now : Nat) : Registry :=
  match result with
  | .ok location => registry.store service location now
  | .error _ => registry

/-- Forget the addresses that have not been found again for too long. -/
def sweep (registry : Registry) (now : Nat) : Registry :=
  { registry with cache := registry.cache.purge registry.settings.purgeAfter now }

end Registry

end Gatehouse
