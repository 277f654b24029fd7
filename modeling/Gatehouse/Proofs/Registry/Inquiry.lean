import Gatehouse.Proofs.Dict
import Gatehouse.Registry.Basic

/-!
Lookups, and what the cache knows of them.

An `Inquiry` is a lookup with all that decides when it is over and what comes of it: the registry
when it began, and the way in which the coordinator answers, should it be asked. `Vouches` says that
an inquiry stands behind an address in the cache: it was made for the same service, it found that
address, and it was over at the moment that the cache gives for it.
-/

namespace Gatehouse

namespace Registry

/-- A lookup of a service. -/
structure Inquiry where
  /-- The registry when the lookup began. -/
  registry : Registry
  service : String
  started : Nat
  /-- How the coordinator answers if it is asked. -/
  answer : Answer

namespace Inquiry

/-- When a lookup is over, and what comes of it. -/
def outcome (inquiry : Inquiry) : Nat × Except Fault Location :=
  match inquiry.registry.lookup inquiry.service inquiry.started with
  | .answered result => (inquiry.started, result)
  | .ask _ _ => inquiry.registry.await inquiry.service inquiry.started inquiry.answer

def ends (inquiry : Inquiry) : Nat := inquiry.outcome.1

def result (inquiry : Inquiry) : Except Fault Location := inquiry.outcome.2

/-- The location at which a coordinator is asked, if one is. -/
def asked? (inquiry : Inquiry) : Option Location :=
  match inquiry.registry.lookup inquiry.service inquiry.started with
  | .answered _ => none
  | .ask _ location => some location

/-- Whether a lookup has found an address, leaving aside when that was. -/
def Found (inquiry : Inquiry) (location : Location) : Prop :=
  ∃ found, inquiry.result = .ok found ∧ found.host = location.host ∧ found.port = location.port ∧
    found.internal = location.internal

/-- A lookup stands behind an address that is kept for a service. -/
structure Vouches (inquiry : Inquiry) (service : String) (location : Location) : Prop where
  sameService : inquiry.service = service
  found : inquiry.Found location
  ended : inquiry.ends = location.updated

theorem started_le_ends (inquiry : Inquiry) : inquiry.started ≤ inquiry.ends := by
  simp only [ends, outcome, await]
  split
  · exact Nat.le_refl _
  · split
    · split <;> exact Nat.le_add_right _ _
    · exact Nat.le_add_right _ _

/-- No lookup takes longer than the coordinator is waited for. -/
theorem ends_le (inquiry : Inquiry) :
    inquiry.ends ≤ inquiry.started + inquiry.registry.settings.coordinatorTimeout := by
  simp only [ends, outcome, await]
  split
  · exact Nat.le_add_right _ _
  · split
    · split
      · assumption
      · exact Nat.le_refl _
    · exact Nat.le_refl _

/-- The table answers for the coordinator itself, which is never asked for its own address. -/
theorem own_name {inquiry : Inquiry} {name : String}
    (mode : inquiry.registry.mode = .coordinator name) (own : inquiry.service = name) :
    inquiry.asked? = none ∧
      inquiry.result = inquiry.registry.table.lookup name inquiry.started := by
  simp only [asked?, result, outcome, lookup, mode, own, if_true]
  cases inquiry.registry.table.lookup name inquiry.started with
  | error fault => exact ⟨rfl, rfl⟩
  | ok location => exact ⟨rfl, rfl⟩

end Inquiry

/-! ## The end of a lookup -/

/-- What is kept of a lookup: an address if it has found one, and nothing else. -/
inductive Keeps (registry : Registry) (inquiry : Inquiry) (now : Nat) : Registry → Prop
  | nothing : Keeps registry inquiry now registry
  | found {location : Location} (result : inquiry.result = .ok location) :
    Keeps registry inquiry now (registry.store inquiry.service location now)

theorem keeps_endResolve (registry : Registry) (inquiry : Inquiry) (now : Nat) :
    registry.Keeps inquiry now
      (registry.endResolve inquiry.service inquiry.result now).2.1 := by
  cases result : inquiry.result with
  | ok location => exact .found result
  | error fault =>
    unfold endResolve
    cases registry.stale? inquiry.service <;> exact .nothing

theorem keeps_endRefresh (registry : Registry) (inquiry : Inquiry) (now : Nat) :
    registry.Keeps inquiry now (registry.endRefresh inquiry.service inquiry.result now) := by
  cases result : inquiry.result with
  | ok location => exact .found result
  | error fault => exact .nothing

/-! ## The cache -/

/-- One of the lookups stands behind each address in the cache, and none is from a moment that is
still to come. -/
def Backed (registry : Registry) (history : List Inquiry) (now : Nat) : Prop :=
  ∀ (service : String) (location : Location), registry.cache.get? service = some location →
    location.updated ≤ now ∧ ∃ inquiry ∈ history, inquiry.Vouches service location

namespace Backed

variable {registry : Registry} {history : List Inquiry} {now : Nat}

theorem empty (fresh : registry.cache = ∅) : registry.Backed history now := by
  intro service location kept
  rw [fresh, Dict.get?_empty] at kept
  cases kept

/-- More lookups, and a later moment, take nothing away. -/
theorem mono {more : List Inquiry} {later : Nat} (backed : registry.Backed history now)
    (subset : history ⊆ more) (after : now ≤ later) : registry.Backed more later := by
  intro service location kept
  obtain ⟨past, inquiry, member, vouches⟩ := backed service location kept
  exact ⟨Nat.le_trans past after, inquiry, subset member, vouches⟩

/-- What a lookup has found may be kept at the moment when the lookup is over. -/
theorem store {inquiry : Inquiry} {found : Location} (backed : registry.Backed history now)
    (member : inquiry ∈ history) (ended : inquiry.ends = now)
    (result : inquiry.result = .ok found) :
    (registry.store inquiry.service found now).Backed history now := by
  intro service location kept
  simp only [Registry.store, LocationCache.store] at kept
  rcases Dict.get?_insert_eq_some_iff.mp kept with ⟨rfl, rfl⟩ | ⟨-, keptBefore⟩
  · exact ⟨Nat.le_refl _, inquiry, member, rfl, ⟨found, result, rfl, rfl, rfl⟩, ended⟩
  · exact backed service location keptBefore

theorem sweep (backed : registry.Backed history now) : (registry.sweep now).Backed history now := by
  intro service location kept
  exact backed service location (Dict.get?_filter_eq_some_iff.mp kept).1

end Backed

end Registry

end Gatehouse
