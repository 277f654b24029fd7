import Gatehouse.Registry.Basic
import Gatehouse.Time.Ticker

/-!
A registry on a clock, with the tasks that work on it in the background.

The refresher looks up, at regular intervals, the addresses that have become too old; the sweeper
forgets those that were not found again for too long. A refresh asks for one address after the other
and may wait for each. Of two tasks that are due at the same time, the one goes first that has
waited longer, which is the one that did not have the last turn; whatever the callers of the
registry wait for comes before both.
-/

namespace Gatehouse

namespace Registry

/-- The answer of the coordinator at a location to the question for a service. -/
abbrev Answers := (coordinator : Location) → (service : String) → Answer

/-- A question to the coordinator at an address. -/
structure Question where
  service : String
  coordinator : String
  deriving DecidableEq, Repr

/-- How many addresses a refresh found again, and how many it did not. -/
structure Report where
  refreshed : Nat := 0
  failed : Nat := 0
  deriving DecidableEq, Repr

def Report.count (report : Report) (result : Except Fault Location) : Report :=
  match result with
  | .ok _ => { report with refreshed := report.refreshed + 1 }
  | .error _ => { report with failed := report.failed + 1 }

/-! ## A refresh in the background -/

/-- A refresh that waits for an answer: what it is going to be and when, and what remains to be
looked up. -/
structure Pass where
  service : String
  ends : Nat
  result : Except Fault Location
  rest : List String

/-- A refresh after all it can do at a moment: what it asked, and what it waits for, if it is not
over. -/
structure Progress where
  registry : Registry
  asked : List Question
  waiting : Option Pass

/-- Look up services one after the other until an answer has to be waited for. -/
def refreshFrom (answers : Answers) (now : Nat) (registry : Registry) (asked : List Question) :
    List String → Progress
  | [] => ⟨registry, asked, none⟩
  | service :: rest =>
    match registry.lookup service now with
    | .answered result =>
      refreshFrom answers now (registry.endRefresh service result now) asked rest
    | .ask _ coordinator =>
      let asked := asked ++ [⟨service, coordinator.address⟩]
      let (ends, result) := registry.await service now (answers coordinator service)
      if ends ≤ now then
        refreshFrom answers now (registry.endRefresh service result now) asked rest
      else ⟨registry, asked, some ⟨service, ends, result, rest⟩⟩

/-- The number of services that a refresh is not done with. -/
def Pass.size : Option Pass → Nat
  | none => 0
  | some pass => pass.rest.length + 1

theorem size_refreshFrom_le (answers : Answers) (now : Nat) (registry : Registry)
    (asked : List Question) (services : List String) :
    Pass.size (refreshFrom answers now registry asked services).waiting ≤ services.length := by
  induction services generalizing registry asked with
  | nil => simp [refreshFrom, Pass.size]
  | cons service rest ih =>
    rw [refreshFrom]
    split
    · exact Nat.le_succ_of_le (ih _ _)
    · dsimp only
      split
      · exact Nat.le_succ_of_le (ih _ _)
      · simp [Pass.size]

/-! ## The clock -/

/-- The task that refreshes: when it will start the next time, what it waits for in a refresh, and
since when it waits. -/
structure Refresher where
  ticker : Ticker
  pass : Option Pass := none
  since : Nat

def Refresher.due (refresher : Refresher) : Nat :=
  match refresher.pass with
  | some pass => pass.ends
  | none => max refresher.ticker.next refresher.since

/-- Whether a refresher waits at all. If it is late for its next start, it goes on at once. -/
def Refresher.waits (refresher : Refresher) : Bool :=
  refresher.pass.isSome || refresher.since < refresher.ticker.next

end Registry

open Registry

/-- A registry on a clock. -/
structure Schedule where
  now : Nat
  registry : Registry
  answers : Answers
  refresher : Option Refresher := none
  sweeper : Option Ticker := none
  /-- Whether the sweeper had the last turn. At the start it is the last one to wait. -/
  sweptLast : Bool := true
  /-- What the coordinator was asked. -/
  asked : List Question := []
  events : List Metrics.Event := []

namespace Schedule

/-- The registry at the start of the clock, with or without its tasks. -/
def start? (registry : Registry) (answers : Answers) (background : Bool) : Option Schedule :=
  if background then do
    let refresh ← Ticker.start? 0 registry.settings.refreshInterval
    let sweep ← Ticker.start? 0 registry.settings.sweepInterval
    some { now := 0, registry, answers,
           refresher := some { ticker := refresh, since := 0 }, sweeper := some sweep }
  else some { now := 0, registry, answers }

/-- The turn of the refresher, at the time when it is due: the end of a wait, or a new refresh. -/
def refresherTurn (s : Schedule) (refresher : Refresher) : Schedule :=
  let time := refresher.due
  let (registry, services, ticker) :=
    match refresher.pass with
    | some pass =>
      (s.registry.endRefresh pass.service pass.result time, pass.rest, refresher.ticker)
    | none => (s.registry, s.registry.expired time, refresher.ticker.advance)
  let progress := refreshFrom s.answers time registry [] services
  { s with
    registry := progress.registry
    asked := s.asked ++ progress.asked
    refresher := some { ticker, pass := progress.waiting, since := time }
    sweptLast := false }

/-- The turn of the sweeper. -/
def sweeperTurn (s : Schedule) (sweeper : Ticker) : Schedule :=
  { s with
    registry := s.registry.sweep sweeper.next
    sweeper := some sweeper.advance
    sweptLast := true }

/-- Whether the sweeper comes before the refresher. -/
def sweeperFirst (s : Schedule) (refresher : Refresher) (sweeper : Ticker) : Bool :=
  sweeper.next < refresher.due ||
    (sweeper.next == refresher.due && refresher.waits && ! s.sweptLast)

/-- The task whose turn is next, if it is due before a moment. -/
inductive Turn where
  | refresh (refresher : Refresher)
  | sweep (sweeper : Ticker)
  | none

def turn (s : Schedule) (limit : Nat) : Turn :=
  match s.refresher, s.sweeper with
  | some refresher, some sweeper =>
    if s.sweeperFirst refresher sweeper then
      if sweeper.next < limit then .sweep sweeper else .none
    else if refresher.due < limit then .refresh refresher else .none
  | some refresher, none => if refresher.due < limit then .refresh refresher else .none
  | none, some sweeper => if sweeper.next < limit then .sweep sweeper else .none
  | none, none => .none

/-- The time from the next start of a refresh to a moment. -/
def refreshTime (s : Schedule) (limit : Nat) : Nat :=
  match s.refresher with
  | some refresher => limit - refresher.ticker.next
  | none => 0

/-- The number of services that a refresh is not done with. -/
def passSize (s : Schedule) : Nat :=
  match s.refresher with
  | some refresher => Pass.size refresher.pass
  | none => 0

/-- The time from the next sweep to a moment. -/
def sweepTime (s : Schedule) (limit : Nat) : Nat :=
  match s.sweeper with
  | some sweeper => limit - sweeper.next
  | none => 0

theorem turn_refresh {s : Schedule} {limit : Nat} {refresher : Refresher}
    (h : s.turn limit = .refresh refresher) :
    s.refresher = some refresher ∧ refresher.due < limit := by
  unfold turn at h
  grind

theorem turn_sweep {s : Schedule} {limit : Nat} {sweeper : Ticker}
    (h : s.turn limit = .sweep sweeper) : s.sweeper = some sweeper ∧ sweeper.next < limit := by
  unfold turn at h
  grind

/-- A turn of the refresher either gets on with a refresh or starts one and waits for the next
tick. -/
theorem refresherTurn_decreases {s : Schedule} {limit : Nat} {refresher : Refresher}
    (h : s.refresher = some refresher) (due : refresher.due < limit) :
    (s.refresherTurn refresher).refreshTime limit < s.refreshTime limit ∨
      (s.refresherTurn refresher).refreshTime limit = s.refreshTime limit ∧
        (s.refresherTurn refresher).passSize < s.passSize := by
  obtain ⟨ticker, pass, since⟩ := refresher
  cases pass with
  | none =>
    left
    have := ticker.period_pos
    simp only [Refresher.due] at due
    simp only [refreshTime, refresherTurn, Ticker.advance, h]
    omega
  | some pass =>
    right
    constructor
    · simp only [refreshTime, refresherTurn, h]
    · have := size_refreshFrom_le s.answers pass.ends
        (s.registry.endRefresh pass.service pass.result pass.ends) [] pass.rest
      simp only [passSize, refresherTurn, Refresher.due, h]
      simp only [Pass.size] at this ⊢
      omega

/-- Everything that the tasks do before a moment. -/
def advance (s : Schedule) (limit : Nat) : Schedule :=
  match _turn : s.turn limit with
  | .refresh refresher => (s.refresherTurn refresher).advance limit
  | .sweep sweeper => (s.sweeperTurn sweeper).advance limit
  | .none => s
termination_by (s.refreshTime limit, s.passSize, s.sweepTime limit)
decreasing_by
  · obtain ⟨there, due⟩ := turn_refresh _turn
    rcases refresherTurn_decreases there due with lt | ⟨eq, lt⟩
    · exact Prod.Lex.left _ _ lt
    · rw [eq]
      exact Prod.Lex.right _ (Prod.Lex.left _ _ lt)
  · obtain ⟨there, due⟩ := turn_sweep _turn
    refine Prod.Lex.right _ (Prod.Lex.right _ ?_)
    have := sweeper.period_pos
    simp only [sweepTime, sweeperTurn, Ticker.advance, there]
    omega

/-! ## What callers do -/

/-- Wait for something that comes at a moment, before the tasks that are due then. -/
def waitFor (s : Schedule) (moment : Nat) : Schedule :=
  { s.advance moment with now := moment }

/-- Let time pass. The tasks that are due at the end have had their turn. -/
def sleep (s : Schedule) (length : Nat) : Schedule :=
  { s.advance (s.now + length + 1) with now := s.now + length }

/-- Ask the coordinator for a service and wait for the answer. -/
def ask (s : Schedule) (coordinator : Location) (service : String) :
    Except Fault Location × Schedule :=
  let (ended, result) := s.registry.await service s.now (s.answers coordinator service)
  let s := { s with asked := s.asked ++ [Question.mk service coordinator.address] }
  (result, s.waitFor ended)

/-- Look up a service and wait for the answer. -/
def lookup (s : Schedule) (service : String) : Except Fault Location × Schedule :=
  match s.registry.lookup service s.now with
  | .answered result => (result, s)
  | .ask _ coordinator => s.ask coordinator service

/-- Find the address of a service. -/
def resolve (s : Schedule) (service : String) : Except Fault Location × Schedule :=
  let resolution := s.registry.beginResolve service s.now
  let s := { s with events := s.events ++ [resolution.event] }
  match resolution with
  | .hit location => (.ok location, s)
  | .miss _ =>
    let (result, s) := s.lookup service
    let (result, registry, events) := s.registry.endResolve service result s.now
    (result, { s with registry, events := s.events ++ events })

/-- Look up services one after the other, and keep the addresses. -/
def refreshAll (s : Schedule) (report : Report) : List String → Report × Schedule
  | [] => (report, s)
  | service :: rest =>
    let (result, s) := s.lookup service
    { s with registry := s.registry.endRefresh service result s.now }.refreshAll
      (report.count result) rest

/-- Look up the addresses that have become too old. -/
def refresh (s : Schedule) : Report × Schedule :=
  s.refreshAll {} (s.registry.expired s.now)

/-- Forget addresses; how many there were. -/
def sweep (s : Schedule) : Nat × Schedule :=
  let registry := s.registry.sweep s.now
  (s.registry.cache.size - registry.cache.size, { s with registry })

/-- Put another table in place. -/
def reload (s : Schedule) (table : ServiceTable) : Schedule :=
  { s with registry := s.registry.reload table }

/-- Stop the tasks. A refresh that has begun is finished first. -/
def stop (s : Schedule) : Schedule :=
  let alone := { s with refresher := none, sweeper := none }
  match s.refresher with
  | some { pass := some pass, .. } =>
    let s := { alone with registry := alone.registry.endRefresh pass.service pass.result pass.ends,
                          now := max s.now pass.ends }
    (s.refreshAll {} pass.rest).2
  | _ => alone

end Schedule

end Gatehouse
