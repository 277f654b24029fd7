import Gatehouse.Proofs.Registry.Inquiry
import Gatehouse.Registry.Schedule

/-!
What a refresh does.

A refresh takes the services whose addresses are too old when it starts, and looks them up one after
the other, while time passes. `inquiries` are the lookups that it makes: each of them begins when
the one before is over. If no task has its turn meanwhile, then a refresh is nothing but these
lookups, so that the clock, the cache and the questions afterwards are what the lookups leave. As no
two of them are for the same service, what is kept of each is still there at the end, and no other
address is touched.
-/

namespace Gatehouse

namespace Registry

/-! ## Addresses that are too old -/

theorem expired_eq (registry : Registry) (now : Nat) :
    registry.expired now =
      (registry.cache.filter fun _ location => registry.settings.ttl ≤ location.age now).keys := by
  unfold expired LocationCache.expired Location.isFresh
  simp only [← decide_not, Nat.not_lt]

/-- A service is due to be looked up again exactly if it has an address, and that is too old. -/
theorem mem_expired_iff {registry : Registry} {service : String} {now : Nat} :
    service ∈ registry.expired now ↔ ∃ location,
      registry.cache.get? service = some location ∧
        registry.settings.ttl ≤ location.age now := by
  rw [expired_eq, Dict.mem_keys_iff]
  simp only [Dict.get?_filter_eq_some_iff, decide_eq_true_eq]

/-! ## One lookup after the other -/

/-- The lookup of a service that begins at a moment, with what the coordinator is going to answer.
-/
def inquire (registry : Registry) (answers : Answers) (started : Nat) (service : String) :
    Inquiry where
  registry := registry
  service := service
  started := started
  answer :=
    match registry.lookup service started with
    | .ask _ coordinator => answers coordinator service
    | .answered result => ⟨some 0, fun _ => result⟩

/-- What the coordinator is asked in a lookup. -/
def Inquiry.questions (inquiry : Inquiry) : List Question :=
  match inquiry.asked? with
  | none => []
  | some coordinator => [⟨inquiry.service, coordinator.address⟩]

theorem inquire_answered (answers : Answers) {registry : Registry} {started : Nat}
    {service : String} {result : Except Fault Location}
    (begun : registry.lookup service started = .answered result) :
    let inquiry := registry.inquire answers started service
    inquiry.outcome = (started, result) ∧ inquiry.questions = [] := by
  dsimp only [Inquiry.outcome, Inquiry.questions, Inquiry.asked?, inquire]
  rw [begun]
  exact ⟨rfl, rfl⟩

theorem inquire_ask (answers : Answers) {registry : Registry} {started : Nat}
    {service name : String} {coordinator : Location}
    (begun : registry.lookup service started = .ask name coordinator) :
    let inquiry := registry.inquire answers started service
    inquiry.outcome = registry.await service started (answers coordinator service) ∧
      inquiry.questions = [⟨service, coordinator.address⟩] := by
  dsimp only [Inquiry.outcome, Inquiry.questions, Inquiry.asked?, inquire]
  rw [begun]
  exact ⟨rfl, rfl⟩

/-- The registry when a lookup is over that was made to refresh an address. -/
def settle (registry : Registry) (inquiry : Inquiry) : Registry :=
  registry.endRefresh inquiry.service inquiry.result inquiry.ends

/-- The registry when several are over. -/
def settleAll (registry : Registry) (inquiries : List Inquiry) : Registry :=
  inquiries.foldl settle registry

/-- The lookups of services, of which each begins when the one before is over. -/
def inquiries (answers : Answers) : Registry → Nat → List String → List Inquiry
  | _, _, [] => []
  | registry, started, service :: rest =>
    let inquiry := registry.inquire answers started service
    inquiry :: inquiries answers (registry.settle inquiry) inquiry.ends rest

/-- When the last of some lookups is over. -/
def lastEnd (started : Nat) : List Inquiry → Nat
  | [] => started
  | inquiry :: rest => lastEnd inquiry.ends rest

/-- What a refresh reports of its lookups. -/
def Report.countAll (report : Report) (inquiries : List Inquiry) : Report :=
  inquiries.foldl (fun report inquiry => report.count inquiry.result) report

theorem map_service_inquiries (answers : Answers) (registry : Registry) (started : Nat)
    (services : List String) :
    (inquiries answers registry started services).map Inquiry.service = services := by
  induction services generalizing registry started with
  | nil => rfl
  | cons service rest ih =>
    rw [inquiries, List.map_cons, ih]
    rfl

/-- A service that is looked up is looked up once if no two lookups are for the same one. -/
theorem filter_service_eq {inquiries : List Inquiry}
    (distinct : (inquiries.map Inquiry.service).Nodup) {inquiry : Inquiry}
    (member : inquiry ∈ inquiries) :
    inquiries.filter (fun other => other.service = inquiry.service) = [inquiry] := by
  induction inquiries with
  | nil => cases member
  | cons first rest ih =>
    obtain ⟨absent, distinctRest⟩ := List.nodup_cons.mp distinct
    rcases List.mem_cons.mp member with rfl | later
    · have others : rest.filter (fun other => other.service = inquiry.service) = [] := by
        refine List.filter_eq_nil_iff.mpr fun other there same => ?_
        exact absent (of_decide_eq_true same ▸ List.mem_map_of_mem there)
      rw [List.filter_cons_of_pos (by exact decide_eq_true rfl), others]
    · have different : first.service ≠ inquiry.service := by
        intro same
        rw [same] at absent
        exact absent (List.mem_map_of_mem later)
      rw [List.filter_cons_of_neg (by rwa [decide_eq_true_eq]), ih distinctRest later]

theorem refreshed_countAll (report : Report) (inquiries : List Inquiry) :
    (report.countAll inquiries).refreshed =
      report.refreshed + inquiries.countP fun inquiry => inquiry.result.isOk := by
  induction inquiries generalizing report with
  | nil => rfl
  | cons inquiry rest ih =>
    rw [List.countP_cons]
    refine (ih (report.count inquiry.result)).trans ?_
    cases inquiry.result with
    | ok location => exact Nat.add_right_comm _ _ _
    | error fault => rfl

theorem failed_countAll (report : Report) (inquiries : List Inquiry) :
    (report.countAll inquiries).failed =
      report.failed + inquiries.countP fun inquiry => ! inquiry.result.isOk := by
  induction inquiries generalizing report with
  | nil => rfl
  | cons inquiry rest ih =>
    rw [List.countP_cons]
    refine (ih (report.count inquiry.result)).trans ?_
    cases inquiry.result with
    | ok location => rfl
    | error fault => exact Nat.add_right_comm _ _ _

/-! ## What is kept of them -/

/-- Nothing but the cache is changed by the end of a lookup. -/
theorem settle_eq (registry : Registry) (inquiry : Inquiry) :
    registry.settle inquiry = { registry with cache := (registry.settle inquiry).cache } := by
  unfold settle endRefresh
  cases inquiry.result with
  | ok location => rfl
  | error fault => rfl

theorem settleAll_eq (registry : Registry) (inquiries : List Inquiry) :
    registry.settleAll inquiries =
      { registry with cache := (registry.settleAll inquiries).cache } := by
  induction inquiries generalizing registry with
  | nil => rfl
  | cons inquiry rest ih =>
    rw [settleAll, List.foldl_cons]
    refine (ih (registry.settle inquiry)).trans ?_
    rw [settle_eq]
    rfl

/-- The address of the service that was looked up: the one that was found, with the moment at which
the lookup was over, or else the one that was there. -/
theorem get?_settle_self (registry : Registry) (inquiry : Inquiry) :
    (registry.settle inquiry).cache.get? inquiry.service =
      match inquiry.result with
      | .ok found => some { found with updated := inquiry.ends }
      | .error _ => registry.cache.get? inquiry.service := by
  unfold settle endRefresh
  cases inquiry.result with
  | ok location => exact (Dict.get?_insert _ _ _ _).trans (if_pos rfl)
  | error fault => rfl

theorem get?_settle_of_ne (registry : Registry) {inquiry : Inquiry} {service : String}
    (different : inquiry.service ≠ service) :
    (registry.settle inquiry).cache.get? service = registry.cache.get? service := by
  unfold settle endRefresh
  cases inquiry.result with
  | ok location => exact (Dict.get?_insert _ _ _ _).trans (if_neg different.symm)
  | error fault => rfl

theorem keys_settle {registry : Registry} {inquiry : Inquiry}
    (kept : inquiry.service ∈ registry.cache.keys) :
    (registry.settle inquiry).cache.keys = registry.cache.keys := by
  unfold settle endRefresh
  cases inquiry.result with
  | ok location => exact Dict.keys_insert kept _
  | error fault => rfl

theorem get?_settleAll_of_notMem (registry : Registry) {inquiries : List Inquiry} {service : String}
    (absent : service ∉ inquiries.map Inquiry.service) :
    (registry.settleAll inquiries).cache.get? service = registry.cache.get? service := by
  induction inquiries generalizing registry with
  | nil => rfl
  | cons inquiry rest ih =>
    rw [List.map_cons, List.mem_cons, not_or] at absent
    refine (ih (registry.settle inquiry) absent.2).trans ?_
    exact get?_settle_of_ne registry (Ne.symm absent.1)

/-- What is kept of a lookup is still there when all are over. -/
theorem get?_settleAll_of_mem (registry : Registry) {inquiries : List Inquiry}
    (distinct : (inquiries.map Inquiry.service).Nodup) {inquiry : Inquiry}
    (member : inquiry ∈ inquiries) :
    (registry.settleAll inquiries).cache.get? inquiry.service =
      match inquiry.result with
      | .ok found => some { found with updated := inquiry.ends }
      | .error _ => registry.cache.get? inquiry.service := by
  induction inquiries generalizing registry with
  | nil => cases member
  | cons first rest ih =>
    obtain ⟨absent, distinctRest⟩ := List.nodup_cons.mp distinct
    rcases List.mem_cons.mp member with rfl | later
    · exact (get?_settleAll_of_notMem (registry.settle inquiry) absent).trans
        (get?_settle_self registry inquiry)
    · have different : first.service ≠ inquiry.service := by
        intro same
        rw [same] at absent
        exact absent (List.mem_map_of_mem later)
      refine (ih (registry.settle first) distinctRest later).trans ?_
      rw [get?_settle_of_ne registry different]

theorem keys_settleAll {registry : Registry} {inquiries : List Inquiry}
    (kept : ∀ inquiry ∈ inquiries, inquiry.service ∈ registry.cache.keys) :
    (registry.settleAll inquiries).cache.keys = registry.cache.keys := by
  induction inquiries generalizing registry with
  | nil => rfl
  | cons inquiry rest ih =>
    have same := keys_settle (kept inquiry List.mem_cons_self)
    refine Eq.trans (ih fun other member => ?_) same
    rw [same]
    exact kept other (List.mem_cons_of_mem _ member)

/-! ## The lookups of a refresh -/

section Refresh

variable {registry : Registry} {services : List String} {now : Nat}

/-- In whatever order the services come that are due, each of them comes once. -/
theorem nodup_inquiries (answers : Answers) (snapshot : services.Perm (registry.expired now)) :
    ((inquiries answers registry now services).map Inquiry.service).Nodup := by
  rw [map_service_inquiries]
  exact snapshot.nodup_iff.mpr (Dict.nodup_keys _)

theorem mem_inquiries_iff (answers : Answers) (snapshot : services.Perm (registry.expired now))
    {service : String} :
    service ∈ (inquiries answers registry now services).map Inquiry.service ↔
      ∃ location, registry.cache.get? service = some location ∧
        registry.settings.ttl ≤ location.age now := by
  rw [map_service_inquiries, snapshot.mem_iff]
  exact mem_expired_iff

theorem length_inquiries (answers : Answers) (snapshot : services.Perm (registry.expired now)) :
    (inquiries answers registry now services).length =
      (registry.cache.filter fun _ location =>
        registry.settings.ttl ≤ location.age now).size := by
  rw [← List.length_map Inquiry.service, map_service_inquiries, snapshot.length_eq, expired_eq]
  exact List.length_map _

theorem keys_refreshed (answers : Answers) (snapshot : services.Perm (registry.expired now)) :
    (registry.settleAll (inquiries answers registry now services)).cache.keys =
      registry.cache.keys := by
  refine keys_settleAll fun inquiry member => ?_
  obtain ⟨location, kept, -⟩ :=
    (mem_inquiries_iff answers snapshot).mp (List.mem_map_of_mem member)
  exact Dict.mem_keys_iff.mpr ⟨location, kept⟩

/-- An address that is young enough is left alone. -/
theorem get?_refreshed_young (answers : Answers) (snapshot : services.Perm (registry.expired now))
    {service : String} {location : Location}
    (kept : registry.cache.get? service = some location)
    (young : location.age now < registry.settings.ttl) :
    let inquiries := inquiries answers registry now services
    (registry.settleAll inquiries).cache.get? service = some location ∧
      inquiries.filter (fun inquiry => inquiry.service = service) = [] := by
  have untouched : service ∉ (inquiries answers registry now services).map Inquiry.service := by
    rw [mem_inquiries_iff answers snapshot]
    rintro ⟨held, found, old⟩
    cases kept.symm.trans found
    exact Nat.not_lt.mpr old young
  refine ⟨?_, List.filter_eq_nil_iff.mpr fun inquiry member same => ?_⟩
  · rw [get?_settleAll_of_notMem registry untouched]
    exact kept
  · exact untouched (of_decide_eq_true same ▸ List.mem_map_of_mem member)

/-- An address that is too old is looked up once, and kept if that fails. -/
theorem get?_refreshed_old (answers : Answers) (snapshot : services.Perm (registry.expired now))
    {service : String} {location : Location}
    (kept : registry.cache.get? service = some location)
    (old : registry.settings.ttl ≤ location.age now) :
    let inquiries := inquiries answers registry now services
    ∃ inquiry, inquiries.filter (fun inquiry => inquiry.service = service) = [inquiry] ∧
      (registry.settleAll inquiries).cache.get? service = some (match inquiry.result with
        | .ok found => { found with updated := inquiry.ends }
        | .error _ => location) := by
  have distinct := nodup_inquiries answers snapshot
  have looked := (mem_inquiries_iff answers snapshot).mpr ⟨location, kept, old⟩
  obtain ⟨inquiry, member, rfl⟩ := List.mem_map.mp looked
  refine ⟨inquiry, filter_service_eq distinct member, ?_⟩
  rw [get?_settleAll_of_mem registry distinct member]
  cases inquiry.result with
  | ok found => rfl
  | error fault => exact kept

end Refresh

end Registry

open Registry

namespace Schedule

variable {s : Schedule}

/-! ## Refreshes on the clock -/

/-- What has no turn before a moment has none before an earlier one. -/
theorem turn_of_le {early limit : Nat} (idle : s.turn limit = .none) (le : early ≤ limit) :
    s.turn early = .none := by
  unfold Schedule.turn sweeperFirst at idle ⊢
  grind

theorem waitFor_idle {moment : Nat} (idle : s.turn moment = .none) :
    s.waitFor moment = { s with now := moment } := by
  rw [waitFor, advance, idle]

/-- A registry on a clock after a refresh has looked up one service. -/
def refreshOne (s : Schedule) (service : String) : Schedule :=
  let looked := s.lookup service
  { looked.2 with registry := looked.2.registry.endRefresh service looked.1 looked.2.now }

theorem refreshAll_cons (s : Schedule) (report : Report) (service : String) (rest : List String) :
    s.refreshAll report (service :: rest) =
      (s.refreshOne service).refreshAll (report.count (s.lookup service).1) rest := rfl

theorem now_refreshOne (s : Schedule) (service : String) :
    (s.refreshOne service).now = (s.registry.inquire s.answers s.now service).ends := by
  unfold refreshOne Schedule.lookup Inquiry.ends
  cases begun : s.registry.lookup service s.now with
  | answered result => rw [(inquire_answered s.answers begun).1]
  | ask name coordinator =>
    rw [(inquire_ask s.answers begun).1]
    rfl

theorem now_le_refreshAll (s : Schedule) (report : Report) (services : List String) :
    s.now ≤ (s.refreshAll report services).2.now := by
  induction services generalizing s report with
  | nil => exact Nat.le_refl _
  | cons service rest ih =>
    have takesTime : s.now ≤ (s.refreshOne service).now := by
      rw [now_refreshOne]
      exact (s.registry.inquire s.answers s.now service).started_le_ends
    rw [refreshAll_cons]
    exact Nat.le_trans takesTime (ih (s.refreshOne service) _)

/-- One service, while no task has its turn. -/
theorem refreshOne_undisturbed {service : String}
    (idle : s.turn (s.registry.inquire s.answers s.now service).ends = .none) :
    let inquiry := s.registry.inquire s.answers s.now service
    (s.lookup service).1 = inquiry.result ∧
      s.refreshOne service =
        { s with
          now := inquiry.ends
          registry := s.registry.settle inquiry
          asked := s.asked ++ inquiry.questions } := by
  unfold refreshOne Schedule.lookup settle Inquiry.result Inquiry.ends at *
  cases begun : s.registry.lookup service s.now with
  | answered result =>
    obtain ⟨outcome, questions⟩ := inquire_answered s.answers begun
    dsimp only
    rw [outcome, questions, List.append_nil]
    exact ⟨rfl, rfl⟩
  | ask name coordinator =>
    obtain ⟨outcome, questions⟩ := inquire_ask s.answers begun
    rw [outcome] at idle
    have waits := waitFor_idle
      (s := { s with asked := s.asked ++ [⟨service, coordinator.address⟩] }) idle
    dsimp only [Schedule.ask]
    rw [outcome, questions, waits]
    exact ⟨rfl, rfl⟩

/-- A refresh while no task has its turn: it is nothing but its lookups. -/
theorem refreshAll_undisturbed (report : Report) (services : List String)
    (idle : s.turn (s.refreshAll report services).2.now = .none) :
    let inquiries := Registry.inquiries s.answers s.registry s.now services
    s.refreshAll report services = (report.countAll inquiries,
      { s with
        now := lastEnd s.now inquiries
        registry := s.registry.settleAll inquiries
        asked := s.asked ++ inquiries.flatMap Inquiry.questions }) := by
  induction services generalizing s report with
  | nil =>
    dsimp only [Registry.inquiries]
    rw [List.flatMap_nil, List.append_nil]
    rfl
  | cons service rest ih =>
    let inquiry := s.registry.inquire s.answers s.now service
    rw [refreshAll_cons] at idle ⊢
    -- no task is due when this lookup is over, since the refresh itself ends no earlier
    have later : inquiry.ends ≤ ((s.refreshOne service).refreshAll
        (report.count (s.lookup service).1) rest).2.now := by
      rw [← now_refreshOne]
      exact now_le_refreshAll (s.refreshOne service) _ rest
    obtain ⟨result, after⟩ := refreshOne_undisturbed (turn_of_le idle later)
    rw [result, after] at idle ⊢
    refine (ih _ idle).trans ?_
    dsimp only [Registry.inquiries]
    rw [List.flatMap_cons, ← List.append_assoc]
    rfl

/-- A refresh during which nothing else happens.

It looks up the services whose addresses are too old when it starts, each of them once, in whatever
order they come; no other service is looked up, and no other address is touched. A lookup that finds
an address puts it in the place of the old one, with the moment at which the lookup was over, and
one that fails leaves the old one with the moment that it had. So the same services have addresses
afterwards, and the report counts every address that was too old once. Apart from that, the time has
passed until the last lookup was over, and the coordinator was asked what the lookups ask. -/
theorem refresh_undisturbed {s : Schedule} {services : List String}
    (snapshot : services.Perm (s.registry.expired s.now))
    (undisturbed : s.turn (s.refreshAll {} services).2.now = .none) :
    let run := s.refreshAll {} services
    let inquiries := Registry.inquiries s.answers s.registry s.now services
    let ttl := s.registry.settings.ttl
    let before := s.registry.cache
    let after := run.2.registry.cache
    run.2 = { s with
      now := lastEnd s.now inquiries
      registry := { s.registry with cache := after }
      asked := s.asked ++ inquiries.flatMap Inquiry.questions } ∧
    after.keys = before.keys ∧
    (∀ service location, before.get? service = some location → location.age s.now < ttl →
      after.get? service = some location ∧
        inquiries.filter (fun inquiry => inquiry.service = service) = []) ∧
    (∀ service location, before.get? service = some location → ttl ≤ location.age s.now →
      ∃ inquiry, inquiries.filter (fun inquiry => inquiry.service = service) = [inquiry] ∧
        after.get? service = some (match inquiry.result with
          | .ok found => { found with updated := inquiry.ends }
          | .error _ => location)) ∧
    run.1.refreshed = inquiries.countP (fun inquiry => inquiry.result.isOk) ∧
    run.1.failed = inquiries.countP (fun inquiry => ! inquiry.result.isOk) ∧
    run.1.refreshed + run.1.failed =
      (before.filter fun _ location => ttl ≤ location.age s.now).size := by
  intro run inquiries ttl before after
  have runs : run = _ := refreshAll_undisturbed {} services undisturbed
  have registry : run.2.registry = s.registry.settleAll inquiries :=
    congrArg (fun run => run.2.registry) runs
  have cache : after = (s.registry.settleAll inquiries).cache := congrArg Registry.cache registry
  have refreshed : run.1.refreshed = _ :=
    (congrArg (fun run => run.1.refreshed) runs).trans (refreshed_countAll {} inquiries)
  have failed : run.1.failed = _ :=
    (congrArg (fun run => run.1.failed) runs).trans (failed_countAll {} inquiries)
  rw [Nat.zero_add] at refreshed failed
  rw [cache]
  refine ⟨?_, keys_refreshed s.answers snapshot,
    fun service location => get?_refreshed_young s.answers snapshot,
    fun service location => get?_refreshed_old s.answers snapshot, refreshed, failed, ?_⟩
  · rw [congrArg Prod.snd runs, ← settleAll_eq]
  · have eachCounted := List.length_eq_countP_add_countP (l := inquiries)
      fun inquiry => inquiry.result.isOk
    simp only [Bool.not_eq_true, Bool.decide_eq_false] at eachCounted
    rw [refreshed, failed, ← eachCounted]
    exact length_inquiries s.answers snapshot

/-- Two addresses are too old. The first lookup takes as long as the coordinator is waited for, and
fails; the second one finds an address 3 later. -/
theorem refresh_undisturbed_overdue :
    let registry : Registry := {
      mode := .coordinator "directory"
      settings := ⟨60, 5, 30, 300, 600⟩
      table := Dict.insert ∅ "directory" { host := "10.0.0.1", port := "9000" }
      cache := Dict.ofList [("billing", ⟨"10.0.0.2", "7001", false, 40⟩),
        ("reports", ⟨"10.0.0.3", "7002", false, 0⟩), ("search", ⟨"10.0.0.4", "7003", false, 41⟩)] }
    let answers : Answers := fun _ service =>
      if service = "billing" then ⟨some 3, fun ended => .ok ⟨"10.0.0.9", "7001", true, ended⟩⟩
      else ⟨none, fun _ => .error (.unavailable service "down")⟩
    let run := Schedule.refreshAll { now := 100, registry, answers } {} ["reports", "billing"]
    run.1.refreshed = 1 ∧ run.1.failed = 1 ∧ run.2.now = 108 ∧
      run.2.asked = [⟨"reports", "10.0.0.1:9000"⟩, ⟨"billing", "10.0.0.1:9000"⟩] ∧
      run.2.registry.cache.get? "billing" = some ⟨"10.0.0.9", "7001", true, 108⟩ ∧
      run.2.registry.cache.get? "reports" = some ⟨"10.0.0.3", "7002", false, 0⟩ ∧
      run.2.registry.cache.get? "search" = some ⟨"10.0.0.4", "7003", false, 41⟩ := by
  intro registry answers run
  let s : Schedule := { now := 100, registry, answers }
  have snapshot : ["reports", "billing"].Perm (s.registry.expired s.now) := by decide +kernel
  obtain ⟨state, -, young, old, refreshed, failed, -⟩ := refresh_undisturbed snapshot rfl
  refine ⟨refreshed, failed, ?_, ?_, ?_, ?_, ?_⟩
  · exact congrArg Schedule.now state
  · exact congrArg Schedule.asked state
  · obtain ⟨inquiry, only, held⟩ := old "billing" ⟨"10.0.0.2", "7001", false, 40⟩
      (by decide +kernel) (by decide)
    cases only
    exact held
  · obtain ⟨inquiry, only, held⟩ := old "reports" ⟨"10.0.0.3", "7002", false, 0⟩
      (by decide +kernel) (by decide)
    cases only
    exact held
  · exact (young "search" ⟨"10.0.0.4", "7003", false, 41⟩ (by decide +kernel) (by decide)).1

/-! ## Refreshes in the background -/

/-- A registry on a clock without its tasks. -/
def alone (s : Schedule) : Schedule := { s with refresher := none, sweeper := none }

/-- What a refresh does is not a matter of what it has to report. -/
theorem refreshAll_report (s : Schedule) (report other : Report) (services : List String) :
    (s.refreshAll report services).2 = (s.refreshAll other services).2 := by
  induction services generalizing s report other with
  | nil => rfl
  | cons service rest ih => exact ih (s.refreshOne service) _ _

/-- What comes of a refresh that has got so far, if nothing else happens. -/
def finish (s : Schedule) (progress : Progress) : Schedule :=
  let paused : Schedule :=
    { s.alone with registry := progress.registry, asked := s.asked ++ progress.asked }
  match progress.waiting with
  | none => paused
  | some pass =>
    ({ paused with
      registry := progress.registry.endRefresh pass.service pass.result pass.ends
      now := pass.ends }.refreshAll {} pass.rest).2

/-- It makes no difference to a refresh that it stops to wait for answers. -/
theorem finish_refreshFrom (s : Schedule) (asked : List Question) (services : List String) :
    s.finish (refreshFrom s.answers s.now s.registry asked services) =
      ({ s.alone with asked := s.asked ++ asked }.refreshAll {} services).2 := by
  induction services generalizing s asked with
  | nil => rfl
  | cons service rest ih =>
    let inquiry := s.registry.inquire s.answers s.now service
    let before : Schedule := { s.alone with asked := s.asked ++ asked }
    have idle : before.turn inquiry.ends = .none := rfl
    have after : before.refreshOne service =
        { s.alone with
          now := inquiry.ends
          registry := s.registry.settle inquiry
          asked := s.asked ++ asked ++ inquiry.questions } := (refreshOne_undisturbed idle).2
    rw [refreshAll_cons, after, refreshAll_report _ _ {}, refreshFrom]
    unfold settle Inquiry.result Inquiry.ends
    cases begun : s.registry.lookup service s.now with
    | answered result =>
      obtain ⟨outcome, questions⟩ := inquire_answered s.answers begun
      rw [outcome, questions, List.append_nil]
      exact ih { s with registry := s.registry.endRefresh service result s.now } asked
    | ask name coordinator =>
      obtain ⟨outcome, questions⟩ := inquire_ask s.answers begun
      have started : s.now ≤ inquiry.outcome.1 := inquiry.started_le_ends
      dsimp only
      rw [outcome] at started ⊢
      rw [questions, List.append_assoc]
      generalize s.registry.await service s.now (s.answers coordinator service) = awaited at *
      obtain ⟨ended, result⟩ := awaited
      -- an answer that takes no time is not waited for
      by_cases atOnce : ended ≤ s.now
      · rw [if_pos atOnce, Nat.le_antisymm atOnce started]
        exact ih { s with registry := s.registry.endRefresh service result s.now } _
      · rw [if_neg atOnce]
        rfl

theorem lt_ends_of_waiting {answers : Answers} {now : Nat} {registry : Registry}
    {asked : List Question} {services : List String} {pass : Pass}
    (waits : (refreshFrom answers now registry asked services).waiting = some pass) :
    now < pass.ends := by
  induction services generalizing registry asked with
  | nil => cases waits
  | cons service rest ih =>
    rw [refreshFrom] at waits
    split at waits
    · exact ih waits
    · dsimp only at waits
      split at waits
      · exact ih waits
      · rename_i later
        cases waits
        exact Nat.lt_of_not_le later

theorem refreshAll_alone (s : Schedule) (services : List String) :
    let inquiries := Registry.inquiries s.answers s.registry s.now services
    let whole := (s.alone.refreshAll {} services).2
    whole.registry = s.registry.settleAll inquiries ∧
      whole.asked = s.asked ++ inquiries.flatMap Inquiry.questions := by
  have runs := refreshAll_undisturbed (s := s.alone) {} services rfl
  exact ⟨congrArg (fun run => run.2.registry) runs, congrArg (fun run => run.2.asked) runs⟩

/-- A refresher that is stopped finishes what it has begun. -/
theorem stop_of_refreshFrom {t : Schedule} {refresher : Refresher} {services : List String}
    {progress : Progress}
    (isProgress : refreshFrom s.answers s.now s.registry [] services = progress)
    (runs : t.refresher = some refresher) (waits : refresher.pass = progress.waiting)
    (sameRegistry : t.registry = progress.registry)
    (sameAsked : t.asked = s.asked ++ progress.asked) (sameAnswers : t.answers = s.answers)
    (future : t.now ≤ s.now) :
    let whole := (s.alone.refreshAll {} services).2
    t.stop.registry = whole.registry ∧ t.stop.asked = whole.asked := by
  intro whole
  have finished := finish_refreshFrom s [] services
  rw [List.append_nil, isProgress] at finished
  have wholeEq : whole = s.finish progress := finished.symm
  obtain ⟨ticker, pass, since⟩ := refresher
  dsimp only at waits
  subst waits
  rw [wholeEq]
  unfold Schedule.stop finish
  rw [runs]
  cases waiting : progress.waiting with
  | none => exact ⟨sameRegistry, sameAsked⟩
  | some pass =>
    have later : s.now < pass.ends := by
      rw [← isProgress] at waiting
      exact lt_ends_of_waiting waiting
    have left := refreshAll_alone { t with
      registry := t.registry.endRefresh pass.service pass.result pass.ends
      now := pass.ends } pass.rest
    have right := refreshAll_alone { s with
      registry := progress.registry.endRefresh pass.service pass.result pass.ends
      asked := s.asked ++ progress.asked
      now := pass.ends } pass.rest
    dsimp only at left ⊢
    rw [sameRegistry, sameAsked, sameAnswers] at left ⊢
    rw [Nat.max_eq_right (Nat.le_trans future (Nat.le_of_lt later))]
    exact ⟨left.1.trans right.1.symm, left.2.trans right.2.symm⟩

/-- The refresher does in its turns what a refresh by a caller does. A turn starts a refresh or goes
on with one, and what comes of it in the end is the same as if it had been made in one go. -/
theorem stop_refresherTurn {refresher : Refresher} (runs : s.refresher = some refresher)
    (due : s.now ≤ refresher.due) :
    let turned := (s.refresherTurn refresher).stop
    let whole :=
      match refresher.pass with
      | none => ({ s.alone with now := refresher.due }.refresh).2
      | some _ => s.stop
    turned.registry = whole.registry ∧ turned.asked = whole.asked := by
  obtain ⟨ticker, pass, since⟩ := refresher
  cases pass with
  | none =>
    exact stop_of_refreshFrom (s := { s with now := max ticker.next since }) rfl rfl rfl rfl rfl rfl
      due
  | some pass =>
    let start : Schedule := { s with
      now := pass.ends
      registry := s.registry.endRefresh pass.service pass.result pass.ends }
    have begun : s.stop = (start.alone.refreshAll {} pass.rest).2 := by
      have later : s.now ≤ pass.ends := due
      unfold Schedule.stop
      rw [runs]
      dsimp only
      rw [Nat.max_eq_right later]
      rfl
    intro turned whole
    rw [show whole = _ from begun]
    exact stop_of_refreshFrom (s := start) rfl rfl rfl rfl rfl rfl due

end Schedule

end Gatehouse
