import Gatehouse.Proofs.Registry.Turns
import Gatehouse.Registry.Schedule

/-!
How old an address can be while the sweeper runs.

An address that is too old may stand in for one that cannot be looked up, whatever its age, so that
only the sweeper sets a bound to it. At every tick the sweeper forgets what is older than the age
for which addresses are kept, and an address that it leaves may grow older until the next tick, but
no further. `Swept.Bounded` says so ahead of time: at the next tick, no address that is there will
be older than that age and the time between two ticks together.
-/

namespace Gatehouse

namespace Registry

/-- A registry that many callers use, and its sweeper. -/
structure Swept where
  office : Office
  sweeper : Ticker

/-- A turn of those who use the registry, or a tick of the sweeper. -/
inductive Doing where
  | turn (turn : Turn)
  | tick

namespace Swept

/-- No time passes beyond a tick that is still to come. -/
def allows (swept : Swept) : Turn → Bool
  | .pass length => swept.office.now + length ≤ swept.sweeper.next
  | _ => true

/-- One turn or tick, and what a caller gets by it. What may not be done yet does nothing. -/
def step (swept : Swept) : Doing → Swept × Option Outcome
  | .turn turn =>
    if swept.allows turn then
      ({ swept with office := (swept.office.step turn).1 }, (swept.office.step turn).2)
    else (swept, none)
  | .tick =>
    if swept.sweeper.next ≤ swept.office.now then
      (⟨(swept.office.step .sweep).1, swept.sweeper.advance⟩, none)
    else (swept, none)

def run (swept : Swept) (doings : List Doing) : Swept :=
  doings.foldl (fun swept doing => (swept.step doing).1) swept

/-- This is the turn that the sweeper has on a clock, at the time of its tick. -/
theorem sweeperTurn_eq_tick (s : Schedule) (sweeper : Ticker) :
    let swept : Swept := ⟨{ now := sweeper.next, registry := s.registry }, sweeper⟩
    (s.sweeperTurn sweeper).registry = (swept.step .tick).1.office.registry ∧
      (s.sweeperTurn sweeper).sweeper = some (swept.step .tick).1.sweeper := by
  intro swept
  have due : swept.sweeper.next ≤ swept.office.now := Nat.le_refl _
  rw [step, if_pos due]
  exact ⟨rfl, rfl⟩

/-! ## What holds throughout -/

/-- What holds while the sweeper of a registry with these settings runs. -/
structure Bounded (settings : Settings) (swept : Swept) : Prop where
  onTime : swept.office.OnTime
  sameSettings : swept.office.registry.settings = settings
  samePeriod : swept.sweeper.period = settings.sweepInterval
  notMissed : swept.office.now ≤ swept.sweeper.next
  soon : swept.sweeper.next ≤ swept.office.now + settings.sweepInterval
  young : ∀ (service : String) (location : Location),
    swept.office.registry.cache.get? service = some location →
      swept.sweeper.next ≤ location.updated + settings.purgeAfter + settings.sweepInterval

variable {settings : Settings} {swept : Swept}

/-- A sweeper that starts while there is nothing in the cache. -/
theorem bounded_start {office : Office} {sweeper : Ticker} (onTime : office.OnTime)
    (sameSettings : office.registry.settings = settings) (empty : office.registry.cache = ∅)
    (started : Ticker.start? office.now settings.sweepInterval = some sweeper) :
    Bounded settings ⟨office, sweeper⟩ := by
  unfold Ticker.start? at started
  split at started
  · cases started
    refine ⟨onTime, sameSettings, rfl, Nat.le_add_right _ _, Nat.le_refl _, ?_⟩
    intro service location kept
    rw [empty, Dict.get?_empty] at kept
    cases kept
  · cases started

/-- A turn keeps the bound: whatever it puts into the cache is new. -/
theorem Bounded.turn (bounded : swept.Bounded settings) {turn : Turn}
    (allowed : swept.allows turn = true) :
    Bounded settings { swept with office := (swept.office.step turn).1 } := by
  have course := Office.course_step swept.office turn
  have soon := bounded.soon
  have clock : swept.office.now ≤ (swept.office.step turn).1.now ∧
      (swept.office.step turn).1.now ≤ swept.sweeper.next := by
    rcases course.now_cases with same | ⟨length, rfl, passed⟩
    · rw [same]
      exact ⟨Nat.le_refl _, bounded.notMissed⟩
    · rw [passed]
      exact ⟨Nat.le_add_right _ _, of_decide_eq_true allowed⟩
  refine ⟨bounded.onTime.course course, course.sameSettings.trans bounded.sameSettings,
    bounded.samePeriod, clock.2, ?_, fun service location kept => ?_⟩
  · exact Nat.le_trans soon (Nat.add_le_add_right clock.1 _)
  · rcases course.cached kept with old | new
    · exact bounded.young service location old
    · -- the next tick is at most one period away from the moment at which it is kept
      dsimp only
      omega

/-- At a tick what is too old is forgotten, and what is left may stay until the next one. -/
theorem Bounded.tick (bounded : swept.Bounded settings)
    (due : swept.sweeper.next ≤ swept.office.now) :
    Bounded settings ⟨(swept.office.step .sweep).1, swept.sweeper.advance⟩ := by
  have atTick := Nat.le_antisymm bounded.notMissed due
  have course := Office.course_step swept.office .sweep
  have next : swept.sweeper.advance.next = swept.office.now + settings.sweepInterval := by
    change swept.sweeper.next + swept.sweeper.period = _
    rw [bounded.samePeriod, atTick]
  refine ⟨bounded.onTime.course course, course.sameSettings.trans bounded.sameSettings,
    bounded.samePeriod, ?_, Nat.le_of_eq next, fun service location kept => ?_⟩
  · dsimp only
    rw [next]
    exact Nat.le_add_right _ _
  · obtain ⟨keptBefore, notOld⟩ := Dict.get?_filter_eq_some_iff.mp kept
    have past := (bounded.onTime.backed service location keptBefore).1
    rw [decide_eq_true_eq, bounded.sameSettings, Location.age] at notOld
    dsimp only
    omega

theorem Bounded.step (bounded : swept.Bounded settings) (doing : Doing) :
    Bounded settings (swept.step doing).1 := by
  cases doing with
  | turn turn =>
    simp only [Swept.step]
    split
    · rename_i allowed
      exact bounded.turn allowed
    · exact bounded
  | tick =>
    simp only [Swept.step]
    split
    · rename_i due
      exact bounded.tick due
    · exact bounded

theorem Bounded.run (bounded : swept.Bounded settings) (doings : List Doing) :
    Bounded settings (swept.run doings) := by
  induction doings generalizing swept with
  | nil => exact bounded
  | cons doing rest ih => exact ih (bounded.step doing)

/-! ## What callers get -/

/-- An address of a service that a lookup of the service has found, not longer than a time ago. -/
def FoundWithin (length : Nat) (office : Office) (service : String) (info : Location) : Prop :=
  ∃ inquiry ∈ office.history, inquiry.service = service ∧ inquiry.Found info ∧
    inquiry.ends ≤ office.now ∧ office.now ≤ inquiry.ends + length

/-- What is in the cache is not older than the bound. -/
theorem Bounded.age_le (bounded : swept.Bounded settings) {service : String} {location : Location}
    (kept : swept.office.registry.cache.get? service = some location) :
    location.age swept.office.now ≤ settings.purgeAfter + settings.sweepInterval := by
  have notMissed := bounded.notMissed
  have young := bounded.young service location kept
  rw [Location.age]
  omega

theorem Bounded.foundWithin (bounded : swept.Bounded settings) {service : String}
    {location : Location} (kept : swept.office.registry.cache.get? service = some location) :
    FoundWithin (settings.purgeAfter + settings.sweepInterval) swept.office service location := by
  obtain ⟨past, inquiry, member, vouches⟩ := bounded.onTime.backed service location kept
  have young := bounded.age_le kept
  rw [Location.age] at young
  refine ⟨inquiry, member, vouches.sameService, vouches.found, ?_, ?_⟩
  · rw [vouches.ended]
    exact past
  · rw [vouches.ended]
    omega

end Swept

theorem get?_of_stale? {registry : Registry} {service : String} {location : Location}
    (stale : registry.stale? service = some location) :
    registry.cache.get? service = some location := by
  unfold stale? at stale
  split at stale
  · exact nomatch stale
  · exact stale

/-- What a caller gets at the end of a lookup is what the lookup has found, or what the cache has for
the service. -/
theorem Office.resolved_info {office : Office} {place : Nat} {inquiry : Inquiry} {outcome : Outcome}
    {info : Location} (returned : (office.resolved place inquiry).2 = some outcome)
    (result : outcome.result = .ok info) :
    outcome.service = inquiry.service ∧ (inquiry.result = .ok info ∨
      office.registry.cache.get? inquiry.service = some info) := by
  cases found : inquiry.result with
  | ok location =>
    rw [Office.resolved_ok found returned] at result ⊢
    cases result
    exact ⟨rfl, Or.inl rfl⟩
  | error fault =>
    simp only [Office.resolved, found, endResolve] at returned
    cases stale : office.registry.stale? inquiry.service with
    | none =>
      rw [stale] at returned
      cases returned
      cases result
    | some location =>
      rw [stale] at returned
      cases returned
      cases result
      exact ⟨rfl, Or.inr (get?_of_stale? stale)⟩

/-- Whatever address a caller gets was found no longer ago than the bound. -/
theorem Swept.Bounded.foundWithin_outcome {settings : Settings} {swept : Swept}
    (bounded : swept.Bounded settings) {doing : Doing} {outcome : Outcome} {info : Location}
    (returned : (swept.step doing).2 = some outcome) (result : outcome.result = .ok info) :
    Swept.FoundWithin (settings.purgeAfter + settings.sweepInterval) (swept.step doing).1.office
      outcome.service info := by
  cases doing with
  | tick =>
    simp only [Swept.step] at returned
    split at returned <;> exact nomatch returned
  | turn turn =>
    simp only [Swept.step] at returned ⊢
    split at returned
    · rename_i allowed
      rw [if_pos allowed]
      dsimp only at returned ⊢
      rcases Office.step_outcome returned with ⟨location, same, hit, isLocation, -⟩ |
        ⟨place, inquiry, waits, isOver, step⟩
      · rw [isLocation] at result
        cases result
        rw [same]
        exact bounded.foundWithin (Office.fresh_of_hit hit).2.1
      · have pending := Office.pending_of_resolving waits
        rw [step] at returned ⊢
        obtain ⟨sameService, own | cached⟩ := Office.resolved_info returned result
        · have ended := bounded.onTime.ends_eq pending isOver
          refine ⟨inquiry, bounded.onTime.recorded inquiry pending, sameService.symm,
            ⟨info, own, rfl, rfl, rfl⟩, isOver, ?_⟩
          rw [ended]
          exact Nat.le_add_right _ _
        · rw [sameService]
          exact bounded.foundWithin cached
    · exact nomatch returned

/-- With the sweeper running since a moment when nothing was in the cache yet, no address in the
cache is ever older than the age for which addresses are kept and the time between two ticks
together, whatever callers, refreshes and other tables do meanwhile, and whichever lookups fail. So
whatever address a caller gets, be it from the cache, from its own lookup, or in place of what that
lookup should have found, a lookup of the same service has found it, and was over no longer ago. -/
theorem age_bounded {registry : Registry} (now : Nat) (early : List Turn) {sweeper : Ticker}
    (empty : registry.cache = ∅)
    (unfilled : (Office.run { now, registry } early).registry.cache = ∅)
    (started : Ticker.start? (Office.run { now, registry } early).now
      registry.settings.sweepInterval = some sweeper) (doings : List Doing) :
    let swept := Swept.run ⟨Office.run { now, registry } early, sweeper⟩ doings
    let bound := registry.settings.purgeAfter + registry.settings.sweepInterval
    (∀ service location, swept.office.registry.cache.get? service = some location →
      location.updated ≤ swept.office.now ∧ location.age swept.office.now ≤ bound) ∧
    ∀ doing outcome info, (swept.step doing).2 = some outcome → outcome.result = .ok info →
      Swept.FoundWithin bound (swept.step doing).1.office outcome.service info := by
  intro swept bound
  have onTime := (Office.onTime_start now empty).run early
  have start := Swept.bounded_start onTime (Office.sameSettings_run _ early) unfilled started
  have bounded : swept.Bounded registry.settings := start.run doings
  refine ⟨fun service location kept => ?_, fun doing outcome info returned result => ?_⟩
  · exact ⟨(bounded.onTime.backed service location kept).1, bounded.age_le kept⟩
  · exact bounded.foundWithin_outcome returned result

/-- The bound is reached. The sweeper ticks every 7 and forgets what is older than 20. An address
that was found at 1 is 20 old at the tick at 21, and 27 old at 28, when the coordinator fails and
the next tick is only about to come. -/
theorem age_bounded_reached :
    let registry : Registry := {
      mode := .coordinator "master"
      settings := ⟨10, 5, 3, 7, 20⟩
      table := Dict.insert ∅ "master" { host := "10.0.0.1", port := "7000" } }
    let found : Answer := ⟨some 0, fun ended => .ok ⟨"10.0.1.1", "7001", false, ended⟩⟩
    let failed : Answer := ⟨some 0, fun _ => .error (.unavailable "reports" "down")⟩
    let swept := Swept.run ⟨Office.run { now := 0, registry } [], ⟨7, 7, by decide⟩⟩
      [.turn (.pass 1), .turn (.resolve "reports" found), .turn (.resolved 0),
        .turn (.pass 6), .tick, .turn (.pass 7), .tick, .turn (.pass 7), .tick,
        .turn (.pass 7), .turn (.resolve "reports" failed)]
    ∃ outcome info, (swept.step (.turn (.resolved 0))).2 = some outcome ∧
      outcome.result = .ok info ∧ info.age swept.office.now = 20 + 7 ∧
      Swept.FoundWithin (20 + 7) (swept.step (.turn (.resolved 0))).1.office outcome.service
        info := by
  intro registry found failed swept
  let info : Location := ⟨"10.0.1.1", "7001", false, 1⟩
  have given : (swept.step (.turn (.resolved 0))).2.map (·.result.toOption) = some (some info) := by
    decide +kernel
  obtain ⟨outcome, returned, found⟩ := Option.map_eq_some_iff.mp given
  have result : outcome.result = .ok info := by
    cases result : outcome.result with
    | ok location =>
      rw [result] at found
      cases found
      rfl
    | error fault =>
      rw [result] at found
      exact nomatch found
  have late : swept.office.now = 28 := by decide +kernel
  have empty : registry.cache = ∅ := rfl
  have started : Ticker.start? (Office.run { now := 0, registry } []).now
      registry.settings.sweepInterval = some ⟨7, 7, by decide⟩ := rfl
  have bounded := age_bounded 0 [] empty empty started
  refine ⟨outcome, info, returned, result, ?_, (bounded _).2 _ outcome info returned result⟩
  rw [late]
  rfl

end Registry

end Gatehouse
