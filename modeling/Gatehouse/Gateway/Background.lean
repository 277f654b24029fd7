import Gatehouse.Gateway.Basic
import Gatehouse.Shutdown

/-!
The tasks that run beside a gateway until they are asked to stop.

Every task listens for the signal to stop. A task that is started with the gateway begins to listen
when it is started, whatever was sent before; the reloader takes over a listener that is there
already. A task that is given a turn and finds the signal, or finds that it has missed one, ends.
The evictor closes all channels when it ends.
-/

namespace Gatehouse

/-- The tasks beside a gateway. -/
inductive Task where
  /-- Looks up again the addresses that have become too old. -/
  | refresher
  /-- Forgets addresses. -/
  | sweeper
  /-- Closes expired channels. -/
  | evictor
  /-- Takes the services of configurations that come later. -/
  | reloader
  deriving DecidableEq, Repr

/-- The tasks that are started with a gateway. -/
def Task.resident : List Task := [.refresher, .sweeper, .evictor]

/-- The time between two turns of a task that has them at regular intervals. The reloader waits for
configurations instead. -/
def Task.period? (gateway : Gateway) : Task → Option Nat
  | .refresher => some gateway.registry.settings.refreshInterval
  | .sweeper => some gateway.registry.settings.sweepInterval
  | .evictor => some gateway.evictionInterval
  | .reloader => none

/-- A task that runs, and how many sendings of the signal lie behind it. -/
structure RunningTask where
  task : Task
  behind : Nat
  deriving DecidableEq, Repr

/-- A gateway with its tasks, the signal, and those who listen for it. -/
structure Background where
  gateway : Gateway
  shutdown : Shutdown := {}
  running : List RunningTask := []

namespace Background

/-! ## Starting tasks -/

/-- Start the tasks of a gateway. -/
def start (b : Background) : Background :=
  { b with running := b.running ++ Task.resident.map fun task => ⟨task, b.shutdown.sent⟩ }

/-- Start the reloader with the listener of a name, which stops listening itself. -/
def startReloader (b : Background) (listener : String) : Background :=
  match b.shutdown.listeners.get? listener with
  | none => b
  | some behind =>
    { b with
      shutdown := (b.shutdown.drop listener).2
      running := b.running ++ [⟨.reloader, behind⟩] }

/-! ## What tasks do -/

def isRunning (b : Background) (task : Task) : Bool :=
  b.running.any (·.task == task)

/-- Do something that is the business of a task, if the task runs. -/
def doAs (b : Background) (task : Task) (f : Gateway → Gateway) : Background :=
  if b.isRunning task then { b with gateway := f b.gateway } else b

/-- A pass of the refresher, given what each lookup comes to. -/
def refresh (b : Background) (lookups : (service : String) → Except Fault Location) (now : Nat) :
    Background :=
  b.doAs .refresher fun gateway =>
    let registry := (gateway.registry.expired now).foldl
      (fun registry service => registry.endRefresh service (lookups service) now) gateway.registry
    { gateway with registry }

def sweep (b : Background) (now : Nat) : Background :=
  b.doAs .sweeper fun gateway => { gateway with registry := gateway.registry.sweep now }

def evict (b : Background) (now : Nat) : Background :=
  b.doAs .evictor fun gateway => { gateway with pool := gateway.pool.evict now }

/-- A configuration comes in. -/
def update (b : Background) (config : Config) : Background :=
  b.doAs .reloader fun gateway => gateway.reload config

/-! ## Ending tasks -/

/-- What a task leaves behind when it ends. -/
def ended (task : Task) (gateway : Gateway) : Gateway :=
  match task with
  | .evictor => { gateway with pool := gateway.pool.closeAll }
  | _ => gateway

/-- A turn of the running task at a place, with nothing to do but listen. -/
def turn (b : Background) (place : Nat) : Background :=
  match b.running[place]? with
  | none => b
  | some running =>
    match (Shutdown.hear b.shutdown.sent running.behind).1 with
    | .nothing => b
    | _ => { b with running := b.running.eraseIdx place, gateway := ended running.task b.gateway }

/-! ## Runs -/

/-- Something that happens. -/
inductive Event where
  | subscribe (name : String)
  | trigger
  | start
  | startReloader (listener : String)
  | refresh (lookups : (service : String) → Except Fault Location) (now : Nat)
  | sweep (now : Nat)
  | evict (now : Nat)
  | update (config : Config)
  | turn (place : Nat)

def step (b : Background) : Event → Background
  | .subscribe name => { b with shutdown := b.shutdown.subscribe name }
  | .trigger => { b with shutdown := b.shutdown.trigger.2 }
  | .start => b.start
  | .startReloader listener => b.startReloader listener
  | .refresh lookups now => b.refresh lookups now
  | .sweep now => b.sweep now
  | .evict now => b.evict now
  | .update config => b.update config
  | .turn place => b.turn place

/-- The gateway and its tasks after everything that happens. -/
def run (b : Background) (events : List Event) : Background :=
  events.foldl step b

end Background

end Gatehouse
