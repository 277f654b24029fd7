import Gatehouse.Gateway.Basic
import Gatehouse.Proofs.Config.Validity
import Gatehouse.Proofs.Registry.Turns

/-!
What other configurations do to a gateway that asks the coordinator.

A valid configuration that asks the coordinator has a row for it. But of a configuration that comes
in while a gateway runs only the services are taken, whatever that configuration says about where
addresses come from, while the gateway goes on to ask the coordinator it was built with. So valid
configurations alone do not keep the coordinator in the table: the theorem at the end says which do,
and what lookups come to after one that does not.
-/

namespace Gatehouse

/-! ## Valid configurations -/

namespace Config

variable {config : Config}

/-- A valid configuration that asks the coordinator has a row for it. -/
theorem Valid.coordinator_listed (valid : config.Valid)
    (asks : config.registry.mode = .coordinator) :
    (config.services.get? config.registry.coordinatorService).isSome = true :=
  Option.isSome_iff_exists.mpr (valid.fit.coordinator asks)

end Config

namespace ServiceTable

variable {table : ServiceTable} {name : String}

theorem row?_of_get? (listed : (table.get? name).isSome = true) :
    (table.row? name).isSome = true := by
  obtain ⟨row, found⟩ := Option.isSome_iff_exists.mp listed
  rw [row?, found]
  rfl

theorem get?_of_row? {row : Config.Service} (found : table.row? name = some row) :
    ∃ listed, table.get? listed = some row := by
  unfold row? at found
  split at found
  · rename_i there
    exact ⟨name, there.trans found⟩
  · split at found
    · exact ⟨underscored name, found⟩
    · exact nomatch found

theorem lookup_unlisted (unlisted : (table.row? name).isSome = false) (now : Nat) :
    table.lookup name now = .error (.unavailable name "not in service table") := by
  rw [Option.isSome_eq_false_iff, Option.isNone_iff_eq_none] at unlisted
  rw [lookup, unlisted]

theorem lookup_addressed {row : Config.Service} (found : table.row? name = some row)
    (addressed : row.Addressed) (now : Nat) :
    table.lookup name now = .ok ⟨row.host, row.port, false, now⟩ := by
  rw [lookup, found]
  dsimp only
  rw [addressed.full]
  rfl

/-- The table of a valid configuration has an address for whatever it has a row for. -/
theorem lookup_listed {config : Config} (valid : config.Valid)
    (listed : (row? config.services name).isSome = true) (now : Nat) :
    ∃ location, lookup config.services name now = .ok location := by
  obtain ⟨row, found⟩ := Option.isSome_iff_exists.mp listed
  obtain ⟨key, there⟩ := get?_of_row? found
  exact ⟨_, lookup_addressed found (valid.fit.services key row there) now⟩

end ServiceTable

/-! ## A gateway in use -/

namespace Gateway

open Registry

/-- Something that happens to the registry of a gateway. -/
inductive Happening where
  /-- Another configuration comes in. -/
  | update (config : Config)
  /-- The registry is used, or time passes. None of that brings another table. -/
  | use (turn : Turn) (keepsTable : ∀ table, turn ≠ .reload table)

def Happening.config? : Happening → Option Config
  | update config => some config
  | use _ _ => none

/-- The configurations that come in. -/
def delivered (happenings : List Happening) : List Config :=
  happenings.filterMap Happening.config?

/-- The configuration that has come in last, and before any has, the one that was there. -/
def latest (config : Config) (happenings : List Happening) : Config :=
  (delivered happenings).getLastD config

/-- One thing happens, with the registry of the gateway in this office. -/
def happen (gateway : Gateway) (office : Office) : Happening → Office
  | .update config =>
    { office with registry := ({ gateway with registry := office.registry }.reload config).registry }
  | .use turn _ => (office.step turn).1

/-- The registry of a gateway that is in use since `now`, after all that happens. -/
def after (gateway : Gateway) (now : Nat) (happenings : List Happening) : Office :=
  happenings.foldl gateway.happen { now, registry := gateway.registry }

theorem after_concat (gateway : Gateway) (now : Nat) (happenings : List Happening)
    (happening : Happening) :
    gateway.after now (happenings ++ [happening]) =
      gateway.happen (gateway.after now happenings) happening := by
  rw [after, List.foldl_append, List.foldl_cons, List.foldl_nil, after]

theorem latest_update (config update : Config) (happenings : List Happening) :
    latest config (happenings ++ [.update update]) = update := by
  rw [latest, delivered, List.filterMap_append, List.filterMap_cons, Happening.config?,
    List.filterMap_nil, List.getLastD_concat]

theorem latest_use (config : Config) (happenings : List Happening) (turn : Turn)
    (keepsTable : ∀ table, turn ≠ .reload table) :
    latest config (happenings ++ [.use turn keepsTable]) = latest config happenings := by
  rw [latest, delivered, List.filterMap_append, List.filterMap_cons_none rfl, List.filterMap_nil,
    List.append_nil, latest, delivered]

theorem latest_mem (config : Config) (happenings : List Happening) :
    latest config happenings = config ∨ latest config happenings ∈ delivered happenings := by
  rw [latest]
  rcases (delivered happenings).eq_nil_or_concat with none | ⟨earlier, last, split⟩
  · rw [none]
    exact Or.inl rfl
  · rw [split, List.concat_eq_append, List.getLastD_concat]
    exact Or.inr (List.mem_append_right _ List.mem_cons_self)

/-- Each configuration that comes in is the last one at some time. -/
theorem exists_latest {happenings : List Happening} {update : Config} (config : Config)
    (comes : update ∈ delivered happenings) :
    ∃ before, before <+: happenings ∧ latest config before = update := by
  obtain ⟨happening, there, isUpdate⟩ := List.mem_filterMap.mp comes
  obtain ⟨before, rest, split⟩ := List.append_of_mem there
  cases happening with
  | use turn keepsTable => exact nomatch isUpdate
  | update update =>
    cases isUpdate
    refine ⟨before ++ [.update update], ⟨rest, ?_⟩, latest_update config update before⟩
    rw [split, List.append_assoc, List.singleton_append]

/-- Where addresses come from is settled when a gateway is built; the table is that of the
configuration that has come in last. -/
theorem registry_after (config : Config) (now : Nat) (happenings : List Happening) :
    ((build config).after now happenings).registry.mode = Mode.ofConfig config ∧
      ((build config).after now happenings).registry.table =
        (latest config happenings).services := by
  induction happenings using List.reverseRecOn with
  | nil => exact ⟨rfl, rfl⟩
  | append_singleton happenings happening ih =>
    rw [after_concat]
    cases happening with
    | update update =>
      rw [latest_update]
      exact ⟨ih.1, rfl⟩
    | use turn keepsTable =>
      rw [latest_use]
      have course := Office.course_step ((build config).after now happenings) turn
      exact ⟨course.sameMode.trans ih.1, (course.sameTable keepsTable).trans ih.2⟩

/-- A configuration with a row for a service. -/
def HasRow (service : String) (config : Config) : Prop :=
  (ServiceTable.row? config.services service).isSome = true

/-- The configuration that has come in last is valid, as all are. -/
theorem valid_latest {config : Config} {happenings : List Happening} (valid : config.Valid)
    (allValid : ∀ update ∈ delivered happenings, update.Valid) :
    (latest config happenings).Valid := by
  rcases latest_mem config happenings with first | later
  · rw [first]
    exact valid
  · exact allValid _ later

theorem delivered_before {before happenings : List Happening} (earlier : before <+: happenings)
    {update : Config} (comes : update ∈ delivered before) : update ∈ delivered happenings :=
  (earlier.filterMap Happening.config?).subset comes

end Gateway

/-! ## Lookups -/

namespace Registry

/-- Without an address for the coordinator no service is found. -/
theorem lookup_of_missing {registry : Registry} {name : String} {now : Nat} {fault : Fault}
    (asks : registry.mode = .coordinator name)
    (missing : registry.table.lookup name now = .error fault) (service : String) :
    registry.lookup service now = .answered (.error fault) := by
  rw [lookup, asks]
  dsimp only
  rw [missing]

/-- With an address for the coordinator, no lookup fails before the coordinator is asked. -/
theorem lookup_of_found {registry : Registry} {name : String} {now : Nat} {location : Location}
    (asks : registry.mode = .coordinator name)
    (found : registry.table.lookup name now = .ok location) (service : String) (fault : Fault) :
    registry.lookup service now ≠ .answered (.error fault) := by
  rw [lookup, asks]
  dsimp only
  rw [found]
  dsimp only
  by_cases own : service = name
  · rw [if_pos own]
    intro same
    cases same
  · rw [if_neg own]
    intro same
    cases same

end Registry

namespace Gateway

open Registry

/-- The table of a gateway that asks the coordinator has an address for it at all times exactly if
every configuration that comes in has a row for the coordinator that the gateway was built to ask.
As long as the last one has, no lookup fails before the coordinator is asked; otherwise every lookup
fails, for whatever service. Configurations that ask the same coordinator always have its row. -/
theorem coordinator_stays_iff {config : Config} {happenings : List Happening} (now : Nat)
    (valid : config.Valid) (asks : config.registry.mode = .coordinator)
    (allValid : ∀ update ∈ delivered happenings, update.Valid) :
    let name := config.registry.coordinatorService
    let during (before : List Happening) := ((build config).after now before).registry
    ((∀ before, before <+: happenings → ∀ moment,
        ∃ location, (during before).table.lookup name moment = .ok location) ↔
      ∀ update ∈ delivered happenings, HasRow name update) ∧
    (∀ before, before <+: happenings → ∀ service moment,
      (HasRow name (latest config before) → ∀ fault,
        (during before).lookup service moment ≠ .answered (.error fault)) ∧
      (¬ HasRow name (latest config before) →
        (during before).lookup service moment =
          .answered (.error (.unavailable name "not in service table")))) ∧
    ∀ update ∈ delivered happenings, update.registry.mode = .coordinator →
      update.registry.coordinatorService = name → HasRow name update := by
  intro name during
  have listed (update : Config) (fit : update.Valid) (mode : update.registry.mode = .coordinator)
      (same : update.registry.coordinatorService = name) : HasRow name update :=
    ServiceTable.row?_of_get? (same ▸ fit.coordinator_listed mode)
  have mode (before : List Happening) : (during before).mode = .coordinator name := by
    rw [(registry_after config now before).1, Mode.ofConfig, asks]
  have table (before : List Happening) :
      (during before).table = (latest config before).services :=
    (registry_after config now before).2
  have found {before : List Happening} (earlier : before <+: happenings)
      (row : HasRow name (latest config before)) (moment : Nat) :
      ∃ location, (during before).table.lookup name moment = .ok location := by
    rw [table]
    refine ServiceTable.lookup_listed ?_ row moment
    exact valid_latest valid fun update comes => allValid update (delivered_before earlier comes)
  have missing {before : List Happening} (row : ¬ HasRow name (latest config before))
      (moment : Nat) : (during before).table.lookup name moment =
        .error (.unavailable name "not in service table") := by
    rw [table]
    exact ServiceTable.lookup_unlisted (eq_false_of_ne_true row) moment
  refine ⟨⟨fun always update comes => ?_, fun each before earlier moment => ?_⟩,
    fun before earlier service moment => ⟨fun row fault => ?_, fun row => ?_⟩,
    fun update comes => listed update (allValid update comes)⟩
  · obtain ⟨before, earlier, last⟩ := exists_latest config comes
    obtain ⟨location, there⟩ := always before earlier now
    by_contra row
    rw [← last] at row
    exact nomatch there.symm.trans (missing row now)
  · refine found earlier ?_ moment
    rcases latest_mem config before with first | later
    · rw [first]
      exact listed config valid asks rfl
    · exact each _ (delivered_before earlier later)
  · obtain ⟨location, there⟩ := found earlier row moment
    exact lookup_of_found (mode before) there service fault
  · exact lookup_of_missing (mode before) (missing row moment) service

/-- A configuration that asks the coordinator, which is at this host. -/
def askingAt (host : String) : Config where
  registry := { mode := .coordinator }
  services := Dict.insert ∅ "masterservice" { host, port := "7000" }

/-- The coordinator moves to another host while the gateway runs. -/
theorem coordinator_stays_moved :
    let happenings := [.use .sweep nofun, .update (askingAt "10.0.0.2"), .use (.pass 5) nofun]
    ∃ location, ((build (askingAt "10.0.0.1")).after 0 happenings).registry.table.lookup
      "masterservice" 5 = .ok location := by
  intro happenings
  have valid : (askingAt "10.0.0.1").Valid := by decide +kernel
  have moved : ∀ update ∈ delivered happenings, update.Valid := by
    intro update comes
    cases List.mem_singleton.mp comes
    decide +kernel
  have stays := coordinator_stays_iff 0 valid rfl moved
  refine stays.1.mpr ?_ happenings (List.prefix_refl _) 5
  intro update comes
  cases List.mem_singleton.mp comes
  exact stays.2.2 _ comes rfl rfl

/-- A configuration without any service, which is valid as it does not ask the coordinator, takes
the coordinator out of the table of a gateway that asks it. -/
theorem coordinator_lost :
    ¬ ∀ (config : Config) (happenings : List Happening), config.Valid →
      config.registry.mode = .coordinator → (∀ update ∈ delivered happenings, update.Valid) →
      ∃ location, ((build config).after 0 happenings).registry.table.lookup
        config.registry.coordinatorService 0 = .ok location := by
  intro always
  have valid : (askingAt "10.0.0.1").Valid := by decide +kernel
  have bare : ∀ update ∈ delivered [.update {}], update.Valid := by
    intro update comes
    cases List.mem_singleton.mp comes
    decide +kernel
  obtain ⟨location, found⟩ := always (askingAt "10.0.0.1") [.update {}] valid rfl bare
  exact nomatch found

end Gateway

end Gatehouse
