import Gatehouse.Proofs.Dict
import Gatehouse.Registry.Schedule

/-!
A registry that takes all addresses from its table.

The table is replaced while the cache stays as it is, so an address may be handed out that the table
no longer gives. `Stocked` says that every address in the cache is what a table gave that was
installed at the moment the cache has for it. It is kept by whatever is done to the registry: what
comes into the cache is read from the present table, at the present moment, and nothing gives a new
moment to what is there already. As the cache is only used for as long as the time to live, a table
that has been replaced is forgotten after that time.
-/

namespace Gatehouse

open Registry

/-- What a table gives is found at the moment of the lookup. -/
theorem ServiceTable.updated_of_lookup {table : ServiceTable} {service : String} {now : Nat}
    {location : Location} (gives : table.lookup service now = .ok location) :
    location.updated = now := by
  unfold lookup at gives
  cases row : table.row? service with
  | none =>
    rw [row] at gives
    cases gives
  | some found =>
    rw [row] at gives
    dsimp only at gives
    split at gives
    · cases gives
    · cases gives
      rfl

namespace Schedule

/-! ## What is done to a registry -/

/-- Something that is done to a registry, or a length of time. -/
inductive Operation where
  | resolve (service : String)
  | refresh
  | sweep
  | reload (table : ServiceTable)
  | sleep (length : Nat)

def perform (s : Schedule) : Operation → Schedule
  | .resolve service => (s.resolve service).2
  | .refresh => s.refresh.2
  | .sweep => s.sweep.2
  | .reload table => s.reload table
  | .sleep length => s.sleep length

def performAll (s : Schedule) (operations : List Operation) : Schedule :=
  operations.foldl perform s

theorem performAll_append (s : Schedule) (first rest : List Operation) :
    s.performAll (first ++ rest) = (s.performAll first).performAll rest :=
  List.foldl_append

/-- A table is installed at a moment in the course of some operations. -/
def Installed (s : Schedule) (operations : List Operation) (moment : Nat) (table : ServiceTable) :
    Prop :=
  ∃ first rest, operations = first ++ rest ∧ (s.performAll first).now = moment ∧
    (s.performAll first).registry.table = table

/-! ## Reading the table -/

/-- A registry after something that takes no time and adds to the cache only what the table gives.
-/
structure Reads (after before : Schedule) : Prop where
  now : after.now = before.now
  mode : after.registry.mode = before.registry.mode
  settings : after.registry.settings = before.registry.settings
  table : after.registry.table = before.registry.table
  refresher : after.refresher = before.refresher
  sweeper : after.sweeper = before.sweeper
  cache : ∀ {service : String} {location : Location},
    after.registry.cache.get? service = some location →
      before.registry.cache.get? service = some location ∨
        before.registry.table.lookup service before.now = .ok location

namespace Reads

variable {s : Schedule}

theorem refl (s : Schedule) : s.Reads s := ⟨rfl, rfl, rfl, rfl, rfl, rfl, Or.inl⟩

theorem trans {last middle first : Schedule} (late : last.Reads middle)
    (early : middle.Reads first) : last.Reads first where
  now := late.now.trans early.now
  mode := late.mode.trans early.mode
  settings := late.settings.trans early.settings
  table := late.table.trans early.table
  refresher := late.refresher.trans early.refresher
  sweeper := late.sweeper.trans early.sweeper
  cache kept := by
    rcases late.cache kept with keptBefore | gives
    · exact early.cache keptBefore
    · rw [early.table, early.now] at gives
      exact Or.inr gives

/-- Keeping what the table gives. -/
theorem store {service : String} {location : Location}
    (gives : s.registry.table.lookup service s.now = .ok location)
    (events : List Metrics.Event) :
    Reads { s with registry := s.registry.store service location s.now, events } s where
  now := rfl
  mode := rfl
  settings := rfl
  table := rfl
  refresher := rfl
  sweeper := rfl
  cache {other found} kept := by
    simp only [Registry.store, LocationCache.store] at kept
    rcases Dict.get?_insert_eq_some_iff.mp kept with ⟨rfl, rfl⟩ | ⟨-, keptBefore⟩
    · have sameMoment := ServiceTable.updated_of_lookup gives
      obtain ⟨host, port, internal, updated⟩ := location
      cases sameMoment
      exact Or.inr gives
    · exact Or.inl keptBefore

end Reads

section Static

variable {s : Schedule}

theorem lookup_static (static : s.registry.mode = .static) (service : String) :
    s.lookup service = (s.registry.table.lookup service s.now, s) := by
  unfold Schedule.lookup Registry.lookup
  rw [static]

/-- A caller gets what the cache has if it is young enough, and else what the table gives. -/
theorem resolve_static (static : s.registry.mode = .static) (service : String) :
    (s.resolve service).2.Reads s ∧
      (s.resolve service).1 =
        match s.registry.cache.fresh? service s.registry.settings.ttl s.now with
        | some location => .ok location
        | none => s.registry.table.lookup service s.now := by
  unfold Schedule.resolve Registry.beginResolve
  cases s.registry.cache.fresh? service s.registry.settings.ttl s.now with
  | some location => exact ⟨⟨rfl, rfl, rfl, rfl, rfl, rfl, Or.inl⟩, rfl⟩
  | none =>
    simp only [lookup_static, static]
    cases gives : s.registry.table.lookup service s.now with
    | ok location => exact ⟨Reads.store gives _, rfl⟩
    | error fault =>
      simp only [endResolve, stale?, static]
      exact ⟨⟨rfl, rfl, rfl, rfl, rfl, rfl, Or.inl⟩, trivial⟩

theorem reads_refreshAll (static : s.registry.mode = .static) (report : Report)
    (services : List String) : (s.refreshAll report services).2.Reads s := by
  induction services generalizing s report with
  | nil => exact Reads.refl s
  | cons service rest ih =>
    unfold refreshAll
    rw [lookup_static static]
    dsimp only
    cases gives : s.registry.table.lookup service s.now with
    | error fault => exact ih static _
    | ok location =>
      let kept : Schedule :=
        { s with registry := s.registry.store service location s.now, events := s.events }
      exact (ih (s := kept) static _).trans (Reads.store gives s.events)

theorem reads_sweep (s : Schedule) : s.sweep.2.Reads s :=
  ⟨rfl, rfl, rfl, rfl, rfl, rfl, fun kept => Or.inl (Dict.get?_filter_eq_some_iff.mp kept).1⟩

theorem sleep_idle (noRefresher : s.refresher = none) (noSweeper : s.sweeper = none)
    (length : Nat) : s.sleep length = { s with now := s.now + length } := by
  have idle : s.advance (s.now + length + 1) = s := by
    unfold advance turn
    rw [noRefresher, noSweeper]
  rw [sleep, idle]

end Static

/-! ## What holds throughout -/

/-- What holds of a registry with this time to live that takes addresses from its table: it has no
tasks, and each address in its cache is what some installed table gave at the moment that the cache
has for it. -/
structure Stocked (ttl : Nat) (installed : Nat → ServiceTable → Prop) (s : Schedule) : Prop where
  static : s.registry.mode = .static
  sameTtl : s.registry.settings.ttl = ttl
  noRefresher : s.refresher = none
  noSweeper : s.sweeper = none
  given : ∀ {service : String} {location : Location},
    s.registry.cache.get? service = some location → location.updated ≤ s.now ∧
      ∃ table, installed location.updated table ∧
        table.lookup service location.updated = .ok location

section Runs

variable {ttl : Nat} {installed : Nat → ServiceTable → Prop} {s : Schedule}

theorem Stocked.reads {after : Schedule} (stocked : s.Stocked ttl installed)
    (present : installed s.now s.registry.table) (reads : after.Reads s) :
    after.Stocked ttl installed where
  static := reads.mode.trans stocked.static
  sameTtl := (congrArg Settings.ttl reads.settings).trans stocked.sameTtl
  noRefresher := reads.refresher.trans stocked.noRefresher
  noSweeper := reads.sweeper.trans stocked.noSweeper
  given kept := by
    rw [reads.now]
    rcases reads.cache kept with keptBefore | gives
    · exact stocked.given keptBefore
    · rw [ServiceTable.updated_of_lookup gives]
      exact ⟨Nat.le_refl _, s.registry.table, present, gives⟩

theorem Stocked.perform (stocked : s.Stocked ttl installed)
    (present : installed s.now s.registry.table) (operation : Operation) :
    (s.perform operation).Stocked ttl installed := by
  cases operation with
  | resolve service =>
    exact stocked.reads present (resolve_static stocked.static service).1
  | refresh => exact stocked.reads present (reads_refreshAll stocked.static _ _)
  | sweep => exact stocked.reads present (reads_sweep s)
  | reload table =>
    exact ⟨stocked.static, stocked.sameTtl, stocked.noRefresher, stocked.noSweeper, stocked.given⟩
  | sleep length =>
    change (s.sleep length).Stocked ttl installed
    rw [sleep_idle stocked.noRefresher stocked.noSweeper]
    refine ⟨stocked.static, stocked.sameTtl, stocked.noRefresher, stocked.noSweeper, ?_⟩
    intro service location kept
    obtain ⟨past, gave⟩ := stocked.given kept
    exact ⟨Nat.le_trans past (Nat.le_add_right _ _), gave⟩

/-- Any number of operations, if all tables count as installed that are there on the way. -/
theorem Stocked.performAll (stocked : s.Stocked ttl installed) (operations : List Operation)
    (present : ∀ moment table, s.Installed operations moment table → installed moment table) :
    (s.performAll operations).Stocked ttl installed := by
  induction operations generalizing s with
  | nil => exact stocked
  | cons operation rest ih =>
    refine ih (stocked.perform (present _ _ ⟨[], operation :: rest, rfl, rfl, rfl⟩) operation) ?_
    rintro moment table ⟨first, later, rfl, there⟩
    exact present moment table ⟨operation :: first, later, rfl, there⟩

/-- No caller gets an address that the table gave when it was as long ago as the time to live. -/
theorem Stocked.resolve_ok (stocked : s.Stocked ttl installed)
    (present : installed s.now s.registry.table) (positive : 0 < ttl) {service : String}
    {info : Location} (returned : (s.resolve service).1 = .ok info) :
    s.now < info.updated + ttl ∧ info.updated ≤ s.now ∧
      ∃ table, installed info.updated table ∧ table.lookup service info.updated = .ok info := by
  rw [(resolve_static stocked.static service).2, stocked.sameTtl] at returned
  cases hit : s.registry.cache.fresh? service ttl s.now with
  | some location =>
    rw [hit] at returned
    cases returned
    obtain ⟨kept, young⟩ := Option.filter_eq_some_iff.mp hit
    obtain ⟨past, gave⟩ := stocked.given kept
    have age : s.now - info.updated < ttl := of_decide_eq_true young
    exact ⟨by omega, past, gave⟩
  | none =>
    rw [hit] at returned
    have sameMoment := ServiceTable.updated_of_lookup returned
    rw [sameMoment]
    exact ⟨Nat.lt_add_of_pos_right positive, Nat.le_refl _, s.registry.table, present, returned⟩

/-- A caller gets a fault if the table has no address and the cache has none that is young enough.
-/
theorem Stocked.resolve_error (stocked : s.Stocked ttl installed) {service : String}
    {fault : Fault} (returned : (s.resolve service).1 = .error fault) :
    s.registry.table.lookup service s.now = .error fault ∧
      ∀ location, (s.resolve service).2.registry.cache.get? service = some location →
        location.updated + ttl ≤ s.now := by
  obtain ⟨reads, result⟩ := resolve_static stocked.static service
  rw [result, stocked.sameTtl] at returned
  cases hit : s.registry.cache.fresh? service ttl s.now with
  | some location =>
    rw [hit] at returned
    cases returned
  | none =>
    rw [hit] at returned
    refine ⟨returned, ?_⟩
    intro location kept
    rcases reads.cache kept with keptBefore | gives
    · rw [LocationCache.fresh?, keptBefore, Option.filter_eq_none_iff] at hit
      have old : ¬ s.now - location.updated < ttl :=
        fun young => hit location rfl (decide_eq_true young)
      obtain ⟨past, -⟩ := stocked.given keptBefore
      omega
    · rw [gives] at returned
      cases returned

/-- As long as the table is not replaced, the moments at which it counts as installed are all that
matter. -/
theorem Stocked.performAll_of_table (stocked : s.Stocked ttl installed)
    (always : ∀ moment, installed moment s.registry.table) {operations : List Operation}
    (unreplaced : ∀ table, .reload table ∉ operations) :
    (s.performAll operations).Stocked ttl installed ∧
      (s.performAll operations).registry.table = s.registry.table := by
  induction operations generalizing s with
  | nil => exact ⟨stocked, rfl⟩
  | cons operation rest ih =>
    have sameTable : (s.perform operation).registry.table = s.registry.table := by
      cases operation with
      | resolve service => exact (resolve_static stocked.static service).1.table
      | refresh => exact (reads_refreshAll stocked.static _ _).table
      | sweep => rfl
      | reload table => exact absurd List.mem_cons_self (unreplaced table)
      | sleep length =>
        change (s.sleep length).registry.table = s.registry.table
        rw [sleep_idle stocked.noRefresher stocked.noSweeper]
    obtain ⟨kept, same⟩ := ih (stocked.perform (always _) operation) (by rwa [sameTable])
      fun table member => unreplaced table (List.mem_cons_of_mem _ member)
    exact ⟨kept, same.trans sameTable⟩

/-- A table that replaces another one counts as installed at every later moment. -/
theorem Stocked.reload (stocked : s.Stocked ttl installed) (table : ServiceTable) :
    (s.reload table).Stocked ttl fun moment given => s.now < moment → given = table := by
  refine ⟨stocked.static, stocked.sameTtl, stocked.noRefresher, stocked.noSweeper, ?_⟩
  intro service location kept
  obtain ⟨past, given, -, gave⟩ := stocked.given kept
  exact ⟨past, given, fun later => absurd past (Nat.not_le.mpr later), gave⟩

end Runs

/-- What callers get from a registry that takes addresses from its table and began with nothing in
its cache, whatever has been done to it.

An address is what a table gave that was installed less than the time to live ago. A caller gets a
fault only if the present table has no address for the service, and the cache has none that is
younger than the time to live. Once a table has been there for that time, callers get what it gives;
and an address that no table has given for that time is not handed out. -/
theorem resolve_installed {settings : Settings} {table : ServiceTable} {answers : Answers}
    {operations : List Operation} (positive : 0 < settings.ttl) (service : String) :
    let start : Schedule := { now := 0, registry := { mode := .static, settings, table }, answers }
    let s := start.performAll operations
    (∀ info, (s.resolve service).1 = .ok info → ∃ moment table,
      s.now < moment + settings.ttl ∧ moment ≤ s.now ∧ start.Installed operations moment table ∧
        table.lookup service moment = .ok info) ∧
    (∀ fault, (s.resolve service).1 = .error fault →
      s.registry.table.lookup service s.now = .error fault ∧
        ∀ location, (s.resolve service).2.registry.cache.get? service = some location →
          location.updated + settings.ttl ≤ s.now) ∧
    (∀ first table rest, operations = first ++ .reload table :: rest →
      (∀ other, .reload other ∉ rest) → (start.performAll first).now + settings.ttl ≤ s.now →
        (∀ info, (s.resolve service).1 = .ok info →
          table.lookup service info.updated = .ok info) ∧
        ∀ fault, (s.resolve service).1 = .error fault →
          table.lookup service s.now = .error fault) ∧
    ∀ since host port, (∀ moment table, since < moment → start.Installed operations moment table →
      ∀ location, table.lookup service moment = .ok location →
        ¬ (location.host = host ∧ location.port = port)) →
      since + settings.ttl ≤ s.now → ∀ info, (s.resolve service).1 = .ok info →
        ¬ (info.host = host ∧ info.port = port) := by
  intro start s
  have stockedAtStart (installed : Nat → ServiceTable → Prop) :
      start.Stocked settings.ttl installed := by
    refine ⟨rfl, rfl, rfl, rfl, ?_⟩
    intro other location kept
    rw [Dict.get?_empty] at kept
    cases kept
  have stocked : s.Stocked settings.ttl (start.Installed operations) :=
    (stockedAtStart _).performAll operations fun _ _ => id
  have present : start.Installed operations s.now s.registry.table :=
    ⟨operations, [], (List.append_nil _).symm, rfl, rfl⟩
  refine ⟨?_, ?_, ?_, ?_⟩
  · intro info returned
    obtain ⟨recent, past, given, installed, gives⟩ :=
      stocked.resolve_ok present positive returned
    exact ⟨info.updated, given, recent, past, installed, gives⟩
  · intro fault returned
    exact stocked.resolve_error returned
  · rintro first newTable rest rfl unreplaced longAgo
    have replaced : s = ((start.performAll first).reload newTable).performAll rest :=
      performAll_append start first (.reload newTable :: rest)
    obtain ⟨stockedSince, sameTable⟩ :=
      (((stockedAtStart _).performAll first fun _ _ => id).reload newTable).performAll_of_table
        (fun _ _ => rfl) unreplaced
    rw [← replaced] at stockedSince sameTable
    constructor
    · intro info returned
      obtain ⟨recent, -, given, onlyNew, gives⟩ :=
        stockedSince.resolve_ok (fun _ => sameTable) positive returned
      rw [onlyNew (by omega)] at gives
      exact gives
    · intro fault returned
      have fails := (stockedSince.resolve_error returned).1
      rw [sameTable] at fails
      exact fails
  · intro since host port removed longAgo info returned
    obtain ⟨recent, -, given, installed, gives⟩ :=
      stocked.resolve_ok present positive returned
    exact removed info.updated given (by omega) installed info gives

/-- The address of reports is replaced at 4, and the old one is still handed out at 9. -/
theorem resolve_installed_replaced :
    let old : ServiceTable := Dict.insert ∅ "reports" { host := "10.0.0.5", port := "7001" }
    let new : ServiceTable := Dict.insert ∅ "reports" { host := "10.0.0.6", port := "7001" }
    let settings : Settings := ⟨10, 5, 1, 1, 60⟩
    let answers : Answers := fun _ _ => ⟨none, fun ended => .ok ⟨"", "", false, ended⟩⟩
    let start : Schedule :=
      { now := 0, registry := { mode := .static, settings, table := old }, answers }
    let operations : List Operation := [.resolve "reports", .sleep 4, .reload new, .sleep 5]
    let s := start.performAll operations
    let info : Location := ⟨"10.0.0.5", "7001", false, 0⟩
    (s.resolve "reports").1 = .ok info ∧ ∃ moment table, s.now < moment + 10 ∧ moment ≤ s.now ∧
      start.Installed operations moment table ∧ table.lookup "reports" moment = .ok info := by
  intro old new settings answers start operations s info
  have returned : (s.resolve "reports").1 = .ok info := by
    change ((((start.resolve "reports").2.sleep 4).reload new).sleep 5 |>.resolve "reports").1 = _
    rw [sleep_idle (s := (start.resolve "reports").2) rfl rfl, sleep_idle rfl rfl]
    rfl
  exact ⟨returned, (resolve_installed (by decide) "reports").1 info returned⟩

end Schedule

end Gatehouse
