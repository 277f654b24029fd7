import Gatehouse.Proofs.Registry.Revalidation
import Gatehouse.Proofs.Registry.Static
import Mathlib.Logic.Relation

/-!
Addresses that are kept alive by the refresher.

`Moves` says what may happen to a registry on a clock from one moment to the next: somebody finds an
address, refreshes or sweeps, the table or the answers of the coordinator change, one of the two
tasks has its turn at the time when it is due, or time passes, though not beyond a turn that is due.
If both are due, either may come first. Lookups that are made have to find an address at once.

An address that is found now is looked up again by the first tick of the refresher that finds it
too old. `Steady` says so ahead of time: at the next tick an address is younger than the time to
live and the time between two ticks together. That bound does not depend on when the address was
found, and each tick establishes it anew. Only with no time to live at all is the bound met: an
address that is found right after a tick is as old as that at the next one, and older than what is
forgotten if a sweep comes first.
-/

namespace Gatehouse

open Registry

/-- A test that every binding passes keeps them all. -/
theorem Dict.filter_eq_self {α : Type} {d : Dict α} {p : String → α → Bool}
    (all : ∀ key value, d.get? key = some value → p key value = true) : d.filter p = d := by
  refine Dict.ext (List.filter_eq_self.mpr ?_)
  rintro ⟨key, value⟩ member
  exact all key value (mem_entries_iff.mp member)

namespace Schedule

/-! ## Lookups that find something at once -/

/-- A lookup of a service that begins now is over at once and finds an address. -/
def Finds (s : Schedule) (service : String) : Prop :=
  match s.registry.lookup service s.now with
  | .answered result => ∃ location, result = .ok location
  | .ask _ coordinator => ∃ location,
    s.registry.await service s.now (s.answers coordinator service) = (s.now, .ok location)

/-- What a lookup comes to is not a matter of the cache. -/
theorem Finds.congr {s t : Schedule} {service : String} (finds : s.Finds service)
    (now : t.now = s.now) (answers : t.answers = s.answers)
    (mode : t.registry.mode = s.registry.mode)
    (settings : t.registry.settings = s.registry.settings)
    (table : t.registry.table = s.registry.table) : t.Finds service := by
  unfold Finds Registry.lookup Registry.await Registry.overdue at finds ⊢
  rw [now, answers, mode, settings, table]
  exact finds

/-- No turn of a task has been missed. -/
structure Punctual (s : Schedule) : Prop where
  refresher : ∀ refresher, s.refresher = some refresher → s.now ≤ refresher.due
  sweeper : ∀ sweeper, s.sweeper = some sweeper → s.now ≤ sweeper.next

/-- Nothing is done before the present moment any more. -/
theorem waitFor_now {s : Schedule} (punctual : s.Punctual) : s.waitFor s.now = s := by
  have idle : s.turn s.now = .none := by
    cases turn : s.turn s.now with
    | none => rfl
    | refresh refresher =>
      obtain ⟨runs, due⟩ := turn_refresh turn
      exact absurd (punctual.refresher refresher runs) (Nat.not_le.mpr due)
    | sweep sweeper =>
      obtain ⟨runs, due⟩ := turn_sweep turn
      exact absurd (punctual.sweeper sweeper runs) (Nat.not_le.mpr due)
  rw [waitFor_idle idle]

/-- Such a lookup leaves everything as it is, but that the coordinator may have been asked. -/
theorem Finds.cases {s : Schedule} {service : String} (finds : s.Finds service)
    (punctual : s.Punctual) :
    ∃ location, (s.registry.lookup service s.now = .answered (.ok location) ∧
        s.lookup service = (.ok location, s)) ∨
      ∃ name coordinator asked, s.registry.lookup service s.now = .ask name coordinator ∧
        s.registry.await service s.now (s.answers coordinator service) = (s.now, .ok location) ∧
        s.lookup service = (.ok location, { s with asked }) := by
  unfold Finds at finds
  unfold Schedule.lookup
  cases begun : s.registry.lookup service s.now with
  | answered result =>
    rw [begun] at finds
    obtain ⟨location, rfl⟩ := finds
    exact ⟨location, .inl ⟨rfl, rfl⟩⟩
  | ask name coordinator =>
    rw [begun] at finds
    obtain ⟨location, ended⟩ := finds
    let asked := s.asked ++ [⟨service, coordinator.address⟩]
    have still := waitFor_now (s := { s with asked }) ⟨punctual.refresher, punctual.sweeper⟩
    refine ⟨location, .inr ⟨name, coordinator, asked, rfl, ended, ?_⟩⟩
    dsimp only [ask]
    rw [ended]
    exact congrArg (Except.ok location, ·) still

theorem Finds.lookup {s : Schedule} {service : String} (finds : s.Finds service)
    (punctual : s.Punctual) :
    ∃ location asked, s.lookup service = (.ok location, { s with asked }) := by
  obtain ⟨location, ⟨-, looked⟩ | ⟨-, -, asked, -, -, looked⟩⟩ := finds.cases punctual
  · exact ⟨location, s.asked, looked⟩
  · exact ⟨location, asked, looked⟩

/-! ## Addresses that are found again -/

/-- A registry after something that takes no time and finds the addresses of some services again. -/
structure Renews (services : List String) (after before : Schedule) : Prop where
  now : after.now = before.now
  answers : after.answers = before.answers
  mode : after.registry.mode = before.registry.mode
  settings : after.registry.settings = before.registry.settings
  table : after.registry.table = before.registry.table
  refresher : after.refresher = before.refresher
  sweeper : after.sweeper = before.sweeper
  renewed : ∀ service ∈ services, ∃ location,
    after.registry.cache.get? service = some location ∧ location.updated = before.now
  others : ∀ service, service ∉ services →
    after.registry.cache.get? service = before.registry.cache.get? service

namespace Renews

variable {s t u : Schedule} {services more : List String}

theorem none (asked : List Question) (events : List Metrics.Event) :
    Renews [] { s with asked, events } s :=
  ⟨rfl, rfl, rfl, rfl, rfl, rfl, rfl, nofun, fun _ _ => rfl⟩

theorem store (service : String) (location : Location) (asked : List Question)
    (events : List Metrics.Event) :
    Renews [service]
      { s with registry := s.registry.store service location s.now, asked, events } s where
  now := rfl
  answers := rfl
  mode := rfl
  settings := rfl
  table := rfl
  refresher := rfl
  sweeper := rfl
  renewed other member := by
    rw [List.mem_singleton.mp member]
    exact ⟨_, (Dict.get?_insert _ _ _ _).trans (if_pos rfl), rfl⟩
  others other different := by
    rw [List.mem_singleton] at different
    exact (Dict.get?_insert _ _ _ _).trans (if_neg different)

theorem trans (late : Renews more u t) (early : Renews services t s) :
    Renews (services ++ more) u s where
  now := late.now.trans early.now
  answers := late.answers.trans early.answers
  mode := late.mode.trans early.mode
  settings := late.settings.trans early.settings
  table := late.table.trans early.table
  refresher := late.refresher.trans early.refresher
  sweeper := late.sweeper.trans early.sweeper
  renewed service member := by
    by_cases again : service ∈ more
    · rw [← early.now]
      exact late.renewed service again
    · rw [late.others service again]
      exact early.renewed service ((List.mem_append.mp member).resolve_right again)
  others service different := by
    rw [List.mem_append, not_or] at different
    rw [late.others service different.2, early.others service different.1]

/-- No address is lost. -/
theorem kept (renews : Renews services t s) {service : String}
    (kept : ∃ location, s.registry.cache.get? service = some location) :
    ∃ location, t.registry.cache.get? service = some location := by
  by_cases again : service ∈ services
  · obtain ⟨location, there, -⟩ := renews.renewed service again
    exact ⟨location, there⟩
  · rw [renews.others service again]
    exact kept

theorem finds (renews : Renews services t s) {service : String} (finds : s.Finds service) :
    t.Finds service :=
  finds.congr renews.now renews.answers renews.mode renews.settings renews.table

theorem punctual (renews : Renews services t s) (punctual : s.Punctual) : t.Punctual where
  refresher := by
    rw [renews.refresher, renews.now]
    exact punctual.refresher
  sweeper := by
    rw [renews.sweeper, renews.now]
    exact punctual.sweeper

end Renews

variable {s : Schedule}

/-- Finding an address, which has to be looked up if the cache does not have it. -/
theorem renews_resolve {service : String} (punctual : s.Punctual)
    (finds : s.registry.cache.fresh? service s.registry.settings.ttl s.now = none →
      s.Finds service) :
    (∃ services, Renews services (s.resolve service).2 s) ∧
      (∃ location, (s.resolve service).1 = .ok location) ∧
        ∃ kept, (s.resolve service).2.registry.cache.get? service = some kept := by
  unfold Schedule.resolve Registry.beginResolve
  cases fresh : s.registry.cache.fresh? service s.registry.settings.ttl s.now with
  | some location =>
    have kept := (Option.filter_eq_some_iff.mp fresh).1
    exact ⟨⟨[], .none _ _⟩, ⟨location, rfl⟩, location, kept⟩
  | none =>
    let missed : Schedule := { s with events := s.events ++ [.lookup .miss] }
    have found : missed.Finds service := finds fresh
    obtain ⟨location, asked, looked⟩ := found.lookup ⟨punctual.refresher, punctual.sweeper⟩
    dsimp only [Resolution.event]
    rw [show _ = _ from looked]
    have renews := Renews.store (s := s) service location asked (missed.events ++ [])
    obtain ⟨kept, there, -⟩ := renews.renewed service (List.mem_singleton.mpr rfl)
    exact ⟨⟨[service], renews⟩, ⟨location, rfl⟩, kept, there⟩

/-- A refresh of services whose lookups find something has no failures. -/
theorem renews_refreshAll (punctual : s.Punctual) {services : List String}
    (finds : ∀ service ∈ services, s.Finds service) (report : Report) :
    (s.refreshAll report services).1.failed = report.failed ∧
      Renews services (s.refreshAll report services).2 s := by
  induction services generalizing s report with
  | nil => exact ⟨rfl, .none s.asked s.events⟩
  | cons service rest ih =>
    obtain ⟨location, asked, looked⟩ :=
      (finds service List.mem_cons_self).lookup punctual
    unfold refreshAll
    rw [looked]
    have renews := Renews.store (s := s) service location asked s.events
    obtain ⟨noFailure, others⟩ := ih (renews.punctual punctual)
      (fun other member => renews.finds (finds other (List.mem_cons_of_mem _ member)))
      (report.count (.ok location))
    exact ⟨noFailure, others.trans renews⟩

/-- In the background such a refresh waits for nothing, and does the same to the registry. -/
theorem refreshFrom_eq (punctual : s.Punctual) {services : List String}
    (finds : ∀ service ∈ services, s.Finds service) (report : Report) (asked : List Question) :
    (refreshFrom s.answers s.now s.registry asked services).waiting = none ∧
      (refreshFrom s.answers s.now s.registry asked services).registry =
        (s.refreshAll report services).2.registry := by
  induction services generalizing s report asked with
  | nil => exact ⟨rfl, rfl⟩
  | cons service rest ih =>
    have after (location : Location) (questions asked : List Question) :=
      have renews := Renews.store (s := s) service location questions s.events
      ih (renews.punctual punctual)
        (fun other member => renews.finds (finds other (List.mem_cons_of_mem _ member)))
        (report.count (.ok location)) asked
    obtain ⟨location, ⟨begun, looked⟩ | ⟨name, coordinator, questions, begun, ended, looked⟩⟩ :=
      (finds service List.mem_cons_self).cases punctual
    · unfold refreshAll refreshFrom
      rw [looked, begun]
      exact after location s.asked asked
    · unfold refreshAll refreshFrom
      rw [looked, begun]
      dsimp only
      rw [ended]
      dsimp only
      rw [if_pos (Nat.le_refl _)]
      exact after location questions _

/-! ## What may happen -/

/-- What may happen next, if lookups find something at once. -/
inductive Moves (s : Schedule) : Schedule → Prop
  | resolve (service : String)
    (finds : s.registry.cache.fresh? service s.registry.settings.ttl s.now = none →
      s.Finds service) :
    Moves s (s.resolve service).2
  | refresh (finds : ∀ service ∈ s.registry.expired s.now, s.Finds service) :
    Moves s s.refresh.2
  | sweep : Moves s s.sweep.2
  | reload (table : ServiceTable) : Moves s (s.reload table)
  | answers (answers : Answers) : Moves s { s with answers }
  /-- The refresher has its turn. -/
  | refresher {refresher : Refresher} (runs : s.refresher = some refresher)
    (due : refresher.due = s.now)
    (finds : ∀ service ∈ s.registry.expired s.now, s.Finds service) :
    Moves s (s.refresherTurn refresher)
  /-- The sweeper has its turn. -/
  | sweeper {sweeper : Ticker} (runs : s.sweeper = some sweeper) (due : sweeper.next = s.now) :
    Moves s (s.sweeperTurn sweeper)
  /-- Time passes, but not beyond a turn that is due. -/
  | pass (length : Nat)
    (refreshes : ∀ refresher, s.refresher = some refresher → s.now + length ≤ refresher.due)
    (sweeps : ∀ sweeper, s.sweeper = some sweeper → s.now + length ≤ sweeper.next) :
    Moves s { s with now := s.now + length }

/-- What may become of a registry in the course of time. -/
abbrev Leads : Schedule → Schedule → Prop :=
  Relation.ReflTransGen Moves

/-! ## What holds throughout -/

/-- What holds of a registry with these settings while both tasks run. The refresher waits for
nothing but its next tick, and at that tick no address will be older than the bound. -/
structure Steady (settings : Settings) (refresher : Refresher) (sweeper : Ticker) (s : Schedule) :
    Prop where
  sameSettings : s.registry.settings = settings
  refreshes : s.refresher = some refresher
  idle : refresher.pass = none
  begun : refresher.since ≤ refresher.ticker.next
  samePeriod : refresher.ticker.period = settings.refreshInterval
  refreshDue : s.now ≤ refresher.ticker.next
  refreshSoon : refresher.ticker.next ≤ s.now + settings.refreshInterval
  sweeps : s.sweeper = some sweeper
  sweepDue : s.now ≤ sweeper.next
  young : ∀ service location, s.registry.cache.get? service = some location →
    location.updated ≤ s.now ∧
      refresher.ticker.next ≤ location.updated + (settings.ttl - 1) + settings.refreshInterval

namespace Steady

variable {settings : Settings} {refresher : Refresher} {sweeper : Ticker}

theorem due_eq (steady : s.Steady settings refresher sweeper) :
    refresher.due = refresher.ticker.next := by
  rw [Refresher.due, steady.idle]
  exact Nat.max_eq_left steady.begun

theorem punctual (steady : s.Steady settings refresher sweeper) : s.Punctual where
  refresher other runs := by
    cases steady.refreshes.symm.trans runs
    rw [steady.due_eq]
    exact steady.refreshDue
  sweeper other runs := by
    cases steady.sweeps.symm.trans runs
    exact steady.sweepDue

/-- A registry whose tasks start while there is nothing in the cache. -/
theorem start {registry : Registry} {answers : Answers} (empty : registry.cache = ∅)
    (started : Schedule.start? registry answers true = some s) :
    ∃ refresher sweeper, s.Steady registry.settings refresher sweeper := by
  rw [Schedule.start?, if_pos rfl] at started
  obtain ⟨refresh, refreshStarted, started⟩ := Option.bind_eq_some_iff.mp started
  obtain ⟨sweep, sweepStarted, started⟩ := Option.bind_eq_some_iff.mp started
  cases started
  unfold Ticker.start? at refreshStarted sweepStarted
  split at refreshStarted
  · split at sweepStarted
    · cases refreshStarted
      cases sweepStarted
      refine ⟨_, _, rfl, rfl, rfl, Nat.zero_le _, rfl, Nat.zero_le _, Nat.le_refl _, rfl,
        Nat.zero_le _, ?_⟩
      intro service location kept
      rw [empty, Dict.get?_empty] at kept
      cases kept
    · cases sweepStarted
  · cases refreshStarted

/-- What is found now will not be too old at the next tick. -/
theorem renews {services : List String} {t : Schedule}
    (steady : s.Steady settings refresher sweeper) (renews : Renews services t s) :
    t.Steady settings refresher sweeper where
  sameSettings := renews.settings.trans steady.sameSettings
  refreshes := renews.refresher.trans steady.refreshes
  idle := steady.idle
  begun := steady.begun
  samePeriod := steady.samePeriod
  refreshDue := renews.now ▸ steady.refreshDue
  refreshSoon := renews.now ▸ steady.refreshSoon
  sweeps := renews.sweeper.trans steady.sweeps
  sweepDue := renews.now ▸ steady.sweepDue
  young service location kept := by
    rw [renews.now]
    by_cases again : service ∈ services
    · obtain ⟨found, there, new⟩ := renews.renewed service again
      cases there.symm.trans kept
      have soon := steady.refreshSoon
      omega
    · rw [renews.others service again] at kept
      exact steady.young service location kept

theorem sweep (steady : s.Steady settings refresher sweeper) :
    s.sweep.2.Steady settings refresher sweeper :=
  { steady with
    young service location kept :=
      steady.young service location (Dict.get?_filter_eq_some_iff.mp kept).1 }

/-- A turn of the refresher does to the registry what a refresh does, and leaves nothing to wait for
but the next tick. -/
theorem refresherTurn_eq (steady : s.Steady settings refresher sweeper)
    (due : refresher.due = s.now)
    (finds : ∀ service ∈ s.registry.expired s.now, s.Finds service) :
    (s.refresherTurn refresher).registry = s.refresh.2.registry ∧
      (s.refresherTurn refresher).refresher = some ⟨refresher.ticker.advance, none, s.now⟩ := by
  obtain ⟨noWait, sameRegistry⟩ := refreshFrom_eq steady.punctual finds {} []
  unfold Schedule.refresherTurn
  rw [steady.idle]
  dsimp only
  rw [due, noWait]
  exact ⟨sameRegistry, rfl⟩

/-- What would be too old at the tick after the next one is renewed at the next one. -/
theorem refresherTurn (steady : s.Steady settings refresher sweeper)
    (due : refresher.due = s.now)
    (finds : ∀ service ∈ s.registry.expired s.now, s.Finds service) :
    (s.refresherTurn refresher).Steady settings ⟨refresher.ticker.advance, none, s.now⟩
      sweeper := by
  have renews := (renews_refreshAll steady.punctual finds {}).2
  obtain ⟨sameRegistry, refreshes⟩ := steady.refresherTurn_eq due finds
  have tick : refresher.ticker.next = s.now := steady.due_eq.symm.trans due
  have next : refresher.ticker.advance.next = s.now + settings.refreshInterval := by
    change refresher.ticker.next + refresher.ticker.period = _
    rw [steady.samePeriod, tick]
  have later : s.now ≤ refresher.ticker.advance.next := next ▸ Nat.le_add_right _ _
  refine ⟨?_, refreshes, rfl, later, steady.samePeriod, later, Nat.le_of_eq next, steady.sweeps,
    steady.sweepDue, fun service location kept => ?_⟩
  · rw [sameRegistry]
    exact renews.settings.trans steady.sameSettings
  · rw [sameRegistry] at kept
    change location.updated ≤ s.now ∧ refresher.ticker.advance.next ≤ _
    rw [next]
    by_cases expired : service ∈ s.registry.expired s.now
    · obtain ⟨found, there, new⟩ := renews.renewed service expired
      cases there.symm.trans kept
      omega
    · have keptBefore := (renews.others service expired).symm.trans kept
      have fresh : ¬ s.registry.settings.ttl ≤ location.age s.now :=
        fun old => expired (mem_expired_iff.mpr ⟨location, keptBefore, old⟩)
      rw [steady.sameSettings, Location.age] at fresh
      have past := (steady.young service location keptBefore).1
      omega

theorem sweeperTurn (steady : s.Steady settings refresher sweeper) (due : sweeper.next = s.now) :
    (s.sweeperTurn sweeper).Steady settings refresher sweeper.advance :=
  { steady with
    sweeps := rfl
    sweepDue := by
      change s.now ≤ sweeper.next + sweeper.period
      omega
    young service location kept :=
      steady.young service location (Dict.get?_filter_eq_some_iff.mp kept).1 }

theorem moves {t : Schedule} (steady : s.Steady settings refresher sweeper) (moves : s.Moves t) :
    ∃ refresher sweeper, t.Steady settings refresher sweeper := by
  cases moves with
  | resolve service finds =>
    obtain ⟨⟨services, renews⟩, -⟩ := renews_resolve steady.punctual finds
    exact ⟨refresher, sweeper, steady.renews renews⟩
  | refresh finds =>
    have renews := (renews_refreshAll steady.punctual finds {}).2
    exact ⟨refresher, sweeper, steady.renews renews⟩
  | sweep => exact ⟨refresher, sweeper, steady.sweep⟩
  | reload table => exact ⟨refresher, sweeper, { steady with }⟩
  | answers answers => exact ⟨refresher, sweeper, { steady with }⟩
  | refresher runs due finds =>
    cases steady.refreshes.symm.trans runs
    exact ⟨_, sweeper, steady.refresherTurn due finds⟩
  | sweeper runs due =>
    cases steady.sweeps.symm.trans runs
    exact ⟨refresher, _, steady.sweeperTurn due⟩
  | pass length refreshes sweeps =>
    refine ⟨refresher, sweeper, { steady with
      refreshDue := ?_, refreshSoon := ?_, sweepDue := ?_, young := ?_ }⟩
    · exact steady.due_eq ▸ refreshes refresher steady.refreshes
    · exact Nat.le_trans steady.refreshSoon (by dsimp only; omega)
    · exact sweeps sweeper steady.sweeps
    · intro service location kept
      obtain ⟨past, young⟩ := steady.young service location kept
      exact ⟨Nat.le_trans past (Nat.le_add_right _ _), young⟩

theorem leads {t : Schedule} (steady : s.Steady settings refresher sweeper) (leads : s.Leads t) :
    ∃ refresher sweeper, t.Steady settings refresher sweeper := by
  induction leads with
  | refl => exact ⟨refresher, sweeper, steady⟩
  | tail _ moves ih =>
    obtain ⟨refresher, sweeper, still⟩ := ih
    exact still.moves moves

/-! ## What follows -/

/-- With a time to live at all, every address is younger than the bound. -/
theorem age_lt (steady : s.Steady settings refresher sweeper) {service : String}
    {location : Location} (kept : s.registry.cache.get? service = some location)
    (lives : 0 < settings.ttl) : location.age s.now < settings.ttl + settings.refreshInterval := by
  obtain ⟨past, young⟩ := steady.young service location kept
  have due := steady.refreshDue
  rw [Location.age]
  omega

theorem age_le (steady : s.Steady settings refresher sweeper) {service : String}
    {location : Location} (kept : s.registry.cache.get? service = some location) :
    location.age s.now ≤ settings.ttl + settings.refreshInterval := by
  obtain ⟨past, young⟩ := steady.young service location kept
  have due := steady.refreshDue
  rw [Location.age]
  omega

/-- A sweep forgets nothing if addresses are kept for as long as the bound. -/
theorem sweep_eq (steady : s.Steady settings refresher sweeper)
    (long : settings.ttl + settings.refreshInterval ≤ settings.purgeAfter) :
    s.registry.sweep s.now = s.registry := by
  have all : s.registry.cache.purge s.registry.settings.purgeAfter s.now = s.registry.cache := by
    refine Dict.filter_eq_self fun service location kept => decide_eq_true ?_
    rw [steady.sameSettings]
    exact Nat.le_trans (steady.age_le kept) long
  rw [Registry.sweep, all]

/-- Whatever happens next then, no address is lost. -/
theorem kept_moves {t : Schedule} (steady : s.Steady settings refresher sweeper)
    (long : settings.ttl + settings.refreshInterval ≤ settings.purgeAfter) (moves : s.Moves t)
    {service : String} (kept : ∃ location, s.registry.cache.get? service = some location) :
    ∃ location, t.registry.cache.get? service = some location := by
  cases moves with
  | resolve other finds =>
    obtain ⟨⟨services, renews⟩, -⟩ := renews_resolve steady.punctual finds
    exact renews.kept kept
  | refresh finds => exact (renews_refreshAll steady.punctual finds {}).2.kept kept
  | sweep =>
    change ∃ location, (s.registry.sweep s.now).cache.get? service = some location
    rw [steady.sweep_eq long]
    exact kept
  | reload table => exact kept
  | answers answers => exact kept
  | refresher runs due finds =>
    cases steady.refreshes.symm.trans runs
    rw [(steady.refresherTurn_eq due finds).1]
    exact (renews_refreshAll steady.punctual finds {}).2.kept kept
  | sweeper runs due =>
    cases steady.sweeps.symm.trans runs
    change ∃ location, (s.registry.sweep sweeper.next).cache.get? service = some location
    rw [due, steady.sweep_eq long]
    exact kept
  | pass length refreshes sweeps => exact kept

theorem kept_leads {t : Schedule} (steady : s.Steady settings refresher sweeper)
    (long : settings.ttl + settings.refreshInterval ≤ settings.purgeAfter) (leads : s.Leads t)
    {service : String} (kept : ∃ location, s.registry.cache.get? service = some location) :
    ∃ location, t.registry.cache.get? service = some location := by
  induction leads with
  | refl => exact kept
  | tail before moves ih =>
    obtain ⟨_, _, still⟩ := steady.leads before
    exact still.kept_moves long moves ih

end Steady

/-! ## Sleeping -/

/-- Lookups of what is in the cache find something at once, whenever they begin. -/
def AlwaysFinds (s : Schedule) : Prop :=
  ∀ moment service location, s.registry.cache.get? service = some location →
    Finds { s with now := moment } service

theorem AlwaysFinds.expired (always : s.AlwaysFinds) (moment : Nat) {service : String}
    (expired : service ∈ s.registry.expired moment) : Finds { s with now := moment } service := by
  obtain ⟨location, kept, -⟩ := mem_expired_iff.mp expired
  exact always moment service location kept

theorem le_of_turn_refresh {limit : Nat} {refresher : Refresher} {sweeper : Ticker}
    (turn : s.turn limit = .refresh refresher) (sweeps : s.sweeper = some sweeper) :
    refresher.due ≤ sweeper.next := by
  unfold Schedule.turn sweeperFirst at turn
  grind

theorem le_of_turn_sweep {limit : Nat} {refresher : Refresher} {sweeper : Ticker}
    (turn : s.turn limit = .sweep sweeper) (refreshes : s.refresher = some refresher) :
    sweeper.next ≤ refresher.due := by
  unfold Schedule.turn sweeperFirst at turn
  grind

theorem le_of_turn_none {limit : Nat} {refresher : Refresher} {sweeper : Ticker}
    (turn : s.turn limit = .none) (refreshes : s.refresher = some refresher)
    (sweeps : s.sweeper = some sweeper) : limit ≤ refresher.due ∧ limit ≤ sweeper.next := by
  unfold Schedule.turn sweeperFirst at turn
  grind

theorem Moves.passTo {n moment : Nat} (later : n ≤ moment)
    (refreshes : ∀ refresher, s.refresher = some refresher → moment ≤ refresher.due)
    (sweeps : ∀ sweeper, s.sweeper = some sweeper → moment ≤ sweeper.next) :
    Moves { s with now := n } { s with now := moment } := by
  obtain ⟨length, rfl⟩ := Nat.exists_eq_add_of_le later
  exact Moves.pass (s := { s with now := n }) length refreshes sweeps

/-- After a turn of the refresher no address is there that was not there before. -/
theorem AlwaysFinds.refresherTurn {settings : Settings} {refresher : Refresher} {sweeper : Ticker}
    (always : s.AlwaysFinds)
    (steady : Steady settings refresher sweeper { s with now := refresher.due }) :
    (s.refresherTurn refresher).AlwaysFinds := by
  let due : Schedule := { s with now := refresher.due }
  have finds : ∀ service ∈ due.registry.expired due.now, due.Finds service :=
    fun service expired => always.expired refresher.due expired
  have renews := (renews_refreshAll steady.punctual finds {}).2
  have sameRegistry : (s.refresherTurn refresher).registry = due.refresh.2.registry :=
    (steady.refresherTurn_eq rfl finds).1
  intro moment service location kept
  rw [sameRegistry] at kept
  have before : ∃ location, s.registry.cache.get? service = some location := by
    by_cases expired : service ∈ due.registry.expired due.now
    · obtain ⟨location, keptBefore, -⟩ := mem_expired_iff.mp expired
      exact ⟨location, keptBefore⟩
    · exact ⟨location, (renews.others service expired).symm.trans kept⟩
  obtain ⟨location, keptBefore⟩ := before
  refine (always moment service location keptBefore).congr rfl rfl ?_ ?_ ?_
  · exact (congrArg Registry.mode sameRegistry).trans renews.mode
  · exact (congrArg Registry.settings sameRegistry).trans renews.settings
  · exact (congrArg Registry.table sameRegistry).trans renews.table

/-- The turns that the tasks have up to a moment are things that may happen, one after the other,
with the time that passes between them. -/
theorem leads_advance {settings : Settings} {refresher : Refresher} {sweeper : Ticker}
    {n last : Nat} (steady : Steady settings refresher sweeper { s with now := n })
    (always : s.AlwaysFinds) (future : n ≤ last) :
    Leads { s with now := n } { s.advance (last + 1) with now := last } := by
  fun_induction Schedule.advance s (last + 1) generalizing n refresher sweeper with
  | case1 s waiting turn ih =>
    obtain ⟨runs, due⟩ := turn_refresh turn
    have passes : Moves { s with now := n } { s with now := waiting.due } := by
      refine .passTo (steady.punctual.refresher _ runs) (fun other otherRuns => ?_)
        fun other sweeps => le_of_turn_refresh turn sweeps
      cases runs.symm.trans otherRuns
      exact Nat.le_refl _
    obtain ⟨other, sweeper, steadyDue⟩ := steady.moves passes
    have same : other = waiting := Option.some.inj (steadyDue.refreshes.symm.trans runs)
    subst same
    have finds : ∀ service ∈ s.registry.expired other.due,
        Finds { s with now := other.due } service :=
      fun service expired => always.expired other.due expired
    have turns : Moves { s with now := other.due }
        { s.refresherTurn other with now := other.due } :=
      .refresher runs rfl finds
    obtain ⟨_, _, steadyAfter⟩ := steadyDue.moves turns
    exact .head passes (.head turns
      (ih steadyAfter (always.refresherTurn steadyDue) (Nat.le_of_lt_succ due)))
  | case2 s ticker turn ih =>
    obtain ⟨runs, due⟩ := turn_sweep turn
    have passes : Moves { s with now := n } { s with now := ticker.next } := by
      refine .passTo (steady.punctual.sweeper _ runs)
        (fun other refreshes => le_of_turn_sweep turn refreshes) fun other otherRuns => ?_
      cases runs.symm.trans otherRuns
      exact Nat.le_refl _
    obtain ⟨_, _, steadyDue⟩ := steady.moves passes
    have turns : Moves { s with now := ticker.next }
        { s.sweeperTurn ticker with now := ticker.next } :=
      .sweeper runs rfl
    obtain ⟨_, _, steadyAfter⟩ := steadyDue.moves turns
    have alwaysAfter : (s.sweeperTurn ticker).AlwaysFinds := fun moment service location kept =>
      always moment service location (Dict.get?_filter_eq_some_iff.mp kept).1
    exact .head passes (.head turns (ih steadyAfter alwaysAfter (Nat.le_of_lt_succ due)))
  | case3 s turn =>
    obtain ⟨refreshLater, sweepLater⟩ := le_of_turn_none turn steady.refreshes steady.sweeps
    refine .single (.passTo future (fun other runs => ?_) fun other runs => ?_)
    · cases steady.refreshes.symm.trans runs
      exact Nat.le_of_succ_le refreshLater
    · cases steady.sweeps.symm.trans runs
      exact Nat.le_of_succ_le sweepLater

/-- To sleep is to let the tasks have their turns. -/
theorem leads_sleep {settings : Settings} {refresher : Refresher} {sweeper : Ticker}
    (steady : s.Steady settings refresher sweeper) (always : s.AlwaysFinds) (length : Nat) :
    s.Leads (s.sleep length) :=
  leads_advance steady always (Nat.le_add_right s.now length)

/-- The refresher keeps addresses alive.

Both tasks run from the start, with nothing in the cache, and every lookup that is made finds an
address at once. Then no address is ever older than the time to live and the time between two ticks
of the refresher together, and none is even as old as that if there is a time to live at all. No
refresh has a failure, be it that of a caller or the one that the refresher makes in its turn. If
addresses are kept for as long as that, a sweep forgets nothing, be it that of a caller or the turn
of the sweeper, and a service that has been found once is in the cache from then on. -/
theorem addresses_kept_alive {registry : Registry} {answers : Answers} {start : Schedule}
    (empty : registry.cache = ∅) (started : Schedule.start? registry answers true = some start)
    (leads : start.Leads s) :
    let settings := registry.settings
    let bound := settings.ttl + settings.refreshInterval
    (∀ service location, s.registry.cache.get? service = some location →
      location.age s.now ≤ bound ∧ (0 < settings.ttl → location.age s.now < bound)) ∧
    ((∀ service ∈ s.registry.expired s.now, s.Finds service) → s.refresh.1.failed = 0 ∧
      ∀ refresher, s.refresher = some refresher → refresher.due = s.now →
        (s.refresherTurn refresher).registry = s.refresh.2.registry) ∧
    (bound ≤ settings.purgeAfter → s.sweep = (0, s) ∧
      (∀ sweeper, s.sweeper = some sweeper → sweeper.next = s.now →
        (s.sweeperTurn sweeper).registry = s.registry) ∧
      ∀ service, (s.registry.cache.fresh? service settings.ttl s.now = none → s.Finds service) →
        (∃ info, (s.resolve service).1 = .ok info) ∧ ∀ t, (s.resolve service).2.Leads t →
          ∃ location, t.registry.cache.get? service = some location) := by
  intro settings bound
  obtain ⟨_, _, steadyStart⟩ := Steady.start empty started
  obtain ⟨refresher, sweeper, steady⟩ := steadyStart.leads leads
  refine ⟨fun service location kept => ⟨steady.age_le kept, steady.age_lt kept⟩,
    fun finds => ⟨(renews_refreshAll steady.punctual finds {}).1, fun other runs due => ?_⟩,
    fun long => ⟨?_, fun other runs due => ?_, fun service finds => ?_⟩⟩
  · cases steady.refreshes.symm.trans runs
    exact (steady.refresherTurn_eq due finds).1
  · unfold Schedule.sweep
    rw [steady.sweep_eq long]
    dsimp only
    rw [Nat.sub_self]
  · cases steady.sweeps.symm.trans runs
    change s.registry.sweep sweeper.next = s.registry
    rw [due, steady.sweep_eq long]
  · rw [← show s.registry.settings.ttl = settings.ttl from
      congrArg Settings.ttl steady.sameSettings] at finds
    obtain ⟨⟨services, renews⟩, found, kept⟩ := renews_resolve steady.punctual finds
    exact ⟨found, fun t later => (steady.renews renews).kept_leads long later kept⟩

/-- The bound is approached. An address that is found at 2 is 1 old at the tick at 3, which leaves
it, and one less than the bound at the tick at 6. -/
theorem addresses_kept_alive_approached :
    let registry : Registry := {
      mode := .static
      settings := ⟨2, 1, 3, 7, 5⟩
      table := Dict.insert ∅ "reports" { host := "10.0.1.1", port := "7001" } }
    let answers : Answers := fun _ _ => ⟨none, fun _ => .error (.unavailable "reports" "down")⟩
    let refresher : Refresher := { ticker := ⟨3, 3, by decide⟩, since := 0 }
    let start : Schedule :=
      { now := 0, registry, answers, refresher := some refresher,
        sweeper := some ⟨7, 7, by decide⟩ }
    let found := (Schedule.resolve { start with now := 2 } "reports").2
    let s : Schedule := { Schedule.refresherTurn { found with now := 3 } refresher with now := 6 }
    Schedule.start? registry answers true = some start ∧ start.Leads s ∧
      (∃ location, s.registry.cache.get? "reports" = some location ∧
        location.age s.now + 1 = 2 + 3 ∧ location.age s.now < 2 + 3) ∧
      s.refresh.1.failed = 0 ∧ s.sweep = (0, s) := by
  intro registry answers refresher start found s
  let turned := Schedule.refresherTurn { found with now := 3 } refresher
  have finds : Finds { start with now := 2 } "reports" := ⟨⟨"10.0.1.1", "7001", false, 2⟩, rfl⟩
  have refreshes : turned.refresher = some ⟨⟨6, 3, by decide⟩, none, 3⟩ := rfl
  have young : found.registry.expired 3 = [] := by decide +kernel
  have old : s.registry.expired 6 = ["reports"] := by decide +kernel
  have leads : start.Leads s := by
    have passes : Moves start { start with now := 2 } := by
      refine .pass 2 (fun other runs => ?_) fun other runs => ?_
      · cases runs
        decide
      · cases runs
        decide
    have resolves : Moves { start with now := 2 } found := .resolve "reports" fun _ => finds
    have passesMore : Moves found { found with now := 3 } := by
      refine .pass 1 (fun other runs => ?_) fun other runs => ?_
      · cases (show found.refresher = some refresher from rfl).symm.trans runs
        decide
      · cases (show found.sweeper = some ⟨7, 7, by decide⟩ from rfl).symm.trans runs
        decide
    have turns : Moves { found with now := 3 } turned := by
      refine .refresher rfl rfl fun service expired => ?_
      rw [show Registry.expired _ _ = [] from young] at expired
      exact nomatch expired
    have passesOn : Moves turned s := by
      refine .pass 3 (fun other runs => ?_) fun other runs => ?_
      · cases refreshes.symm.trans runs
        decide
      · cases (show turned.sweeper = some ⟨7, 7, by decide⟩ from rfl).symm.trans runs
        decide
    exact .tail (.tail (.tail (.tail (.single passes) resolves) passesMore) turns) passesOn
  have started : Schedule.start? registry answers true = some start := rfl
  obtain ⟨ages, noFailure, longKept⟩ := addresses_kept_alive rfl started leads
  have kept : s.registry.cache.get? "reports" = some ⟨"10.0.1.1", "7001", false, 2⟩ := by
    decide +kernel
  refine ⟨started, leads, ⟨_, kept, rfl, (ages _ _ kept).2 (by decide)⟩, ?_,
    (longKept (by decide)).1⟩
  refine (noFailure fun service expired => ?_).1
  rw [show Registry.expired _ _ = ["reports"] from old, List.mem_singleton] at expired
  rw [expired]
  exact ⟨⟨"10.0.1.1", "7001", false, 6⟩, rfl⟩

/-- With no time to live the bound is met. An address that is found at 3, after the tick, is 3 old
at the tick at 6, where the turn of the sweeper may come first. -/
theorem bound_met_without_ttl :
    ¬ ∀ (registry : Registry) (answers : Answers) (start s : Schedule), registry.cache = ∅ →
      Schedule.start? registry answers true = some start → start.Leads s →
      ∀ service location, s.registry.cache.get? service = some location →
        location.age s.now < registry.settings.ttl + registry.settings.refreshInterval := by
  intro always
  let registry : Registry := {
    mode := .static
    settings := ⟨0, 1, 3, 6, 2⟩
    table := Dict.insert ∅ "reports" { host := "10.0.1.1", port := "7001" } }
  let answers : Answers := fun _ _ => ⟨none, fun _ => .error (.unavailable "reports" "down")⟩
  let refresher : Refresher := { ticker := ⟨3, 3, by decide⟩, since := 0 }
  let start : Schedule :=
    { now := 0, registry, answers, refresher := some refresher, sweeper := some ⟨6, 6, by decide⟩ }
  let ticked := Schedule.refresherTurn { start with now := 3 } refresher
  let found := (ticked.resolve "reports").2
  let s : Schedule := { found with now := 6 }
  have leads : start.Leads s := by
    have passes : Moves start { start with now := 3 } := by
      refine .pass 3 (fun other runs => ?_) fun other runs => ?_
      · cases runs
        decide
      · cases runs
        decide
    have turns : Moves { start with now := 3 } ticked := .refresher rfl rfl nofun
    have resolves : Moves ticked found :=
      .resolve "reports" fun _ => ⟨⟨"10.0.1.1", "7001", false, 3⟩, rfl⟩
    have passesOn : Moves found s := by
      refine .pass 3 (fun other runs => ?_) fun other runs => ?_
      · cases (show found.refresher = some ⟨⟨6, 3, by decide⟩, none, 3⟩ from rfl).symm.trans runs
        decide
      · cases (show found.sweeper = some ⟨6, 6, by decide⟩ from rfl).symm.trans runs
        decide
    exact .tail (.tail (.tail (.single passes) turns) resolves) passesOn
  have kept : s.registry.cache.get? "reports" = some ⟨"10.0.1.1", "7001", false, 3⟩ := by
    decide +kernel
  have young := always registry answers start s rfl rfl leads "reports" _ kept
  exact absurd young (by decide)

end Schedule

end Gatehouse
