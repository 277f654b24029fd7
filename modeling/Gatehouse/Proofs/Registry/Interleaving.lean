import Gatehouse.Proofs.Registry.Turns

/-!
What callers get from a registry that asks the coordinator.

`Office.Sound` holds at all times, however many callers there are and whatever happens meanwhile:
each address in the cache has a lookup of the same service behind it, which was over at the moment
that the cache gives for it. The theorem at the end says what that means for callers.
-/

namespace Gatehouse

namespace Registry

namespace Office

/-- A registry with nothing in its cache that asks the coordinator of this name. -/
def start (name : String) (settings : Settings) (table : ServiceTable) : Office where
  registry := { mode := .coordinator name, settings, table }

/-! ## What holds throughout -/

/-- What holds of a registry that asks the coordinator of this name: its mode and settings are those
it began with, no lookup that goes on is overdue, and the cache is backed by lookups. -/
structure Sound (name : String) (settings : Settings) (office : Office) : Prop where
  asksCoordinator : office.registry.mode = .coordinator name
  sameSettings : office.registry.settings = settings
  begun : ∀ inquiry ∈ office.history, inquiry.registry.mode = .coordinator name ∧
    inquiry.registry.settings = settings
  recorded : ∀ inquiry ∈ office.pending, inquiry ∈ office.history
  due : ∀ inquiry ∈ office.pending, office.now ≤ inquiry.ends
  backed : office.registry.Backed office.history office.now

variable {name : String} {settings : Settings} {office : Office}

theorem sound_start (table : ServiceTable) : Sound name settings (start name settings table) where
  asksCoordinator := rfl
  sameSettings := rfl
  begun := nofun
  recorded := nofun
  due := nofun
  backed := Backed.empty rfl

theorem Sound.onTime (sound : office.Sound name settings) : office.OnTime :=
  ⟨sound.recorded, sound.due, sound.backed⟩

/-- The registry stays sound: a lookup that begins is one of a registry with the same mode and the
same settings. -/
theorem Sound.step (sound : office.Sound name settings) (turn : Turn) :
    Sound name settings (office.step turn).1 := by
  have course := course_step office turn
  obtain ⟨recorded, due, backed⟩ := sound.onTime.course course
  refine ⟨course.sameMode.trans sound.asksCoordinator,
    course.sameSettings.trans sound.sameSettings, fun inquiry member => ?_, recorded, due, backed⟩
  rcases course.history_cases member with before | ⟨service, answer, rfl⟩
  · exact sound.begun inquiry before
  · exact ⟨sound.asksCoordinator, sound.sameSettings⟩

/-- The registry is sound after any number of turns. -/
theorem Sound.run (sound : office.Sound name settings) (turns : List Turn) :
    Sound name settings (office.run turns) := by
  induction turns generalizing office with
  | nil => exact sound
  | cons turn rest ih => exact ih (sound.step turn)

/-! ## What callers get -/

/-- An address for a service is recent: a lookup of the same service has found it, and was begun
less than the time to live and the time for a lookup ago. -/
def Recent (settings : Settings) (office : Office) (service : String) (info : Location) : Prop :=
  ∃ inquiry ∈ office.history, inquiry.service = service ∧ inquiry.Found info ∧
    inquiry.ends ≤ office.now ∧
    office.now < inquiry.started + settings.ttl + settings.coordinatorTimeout

/-- The lookup that a caller has waited for has failed just now. -/
def HasFailed (office : Office) (outcome : Outcome) (fault : Fault) : Prop :=
  ∃ own ∈ office.history, outcome.own = some own ∧ own.service = outcome.service ∧
    own.ends = office.now ∧ own.result = .error fault

/-- What the cache has is recent. -/
theorem Sound.recent_of_hit (sound : office.Sound name settings) {service : String}
    {location : Location}
    (hit : office.registry.beginResolve service office.now = .hit location) :
    office.Recent settings service location := by
  obtain ⟨-, kept, young⟩ := fresh_of_hit hit
  obtain ⟨past, inquiry, member, vouches⟩ := sound.backed service location kept
  have short := inquiry.ends_le
  rw [(sound.begun inquiry member).2, vouches.ended] at short
  rw [sound.sameSettings] at young
  refine ⟨inquiry, member, vouches.sameService, vouches.found, ?_, ?_⟩
  · rw [vouches.ended]
    exact past
  · omega

/-- What a lookup finds is recent at its end. -/
theorem Sound.recent_of_ended (sound : office.Sound name settings) (positive : 0 < settings.ttl)
    {inquiry : Inquiry} {found : Location} (pending : inquiry ∈ office.pending)
    (isOver : inquiry.ends ≤ office.now) (result : inquiry.result = .ok found) :
    office.Recent settings inquiry.service found := by
  have member := sound.recorded inquiry pending
  have short := inquiry.ends_le
  rw [(sound.begun inquiry member).2, sound.onTime.ends_eq pending isOver] at short
  refine ⟨inquiry, member, rfl, ⟨found, result, rfl, rfl, rfl⟩, isOver, ?_⟩
  omega

/-- The end of a lookup that has failed: the registry stays as it is, and what the cache has for the
service stands in. -/
theorem resolved_error {place : Nat} {inquiry : Inquiry} {fault : Fault} {outcome : Outcome}
    (asks : office.registry.mode = .coordinator name) (result : inquiry.result = .error fault)
    (returned : (office.resolved place inquiry).2 = some outcome) :
    (office.resolved place inquiry).1.registry = office.registry ∧
      outcome.service = inquiry.service ∧ outcome.own = some inquiry ∧
      (office.registry.cache.get? inquiry.service = none ∧ outcome.result = .error fault ∨
        ∃ info, office.registry.cache.get? inquiry.service = some info ∧
          outcome.result = .ok info) := by
  simp only [Office.resolved, result, endResolve, stale?, asks] at returned ⊢
  cases kept : office.registry.cache.get? inquiry.service with
  | none =>
    rw [kept] at returned
    cases returned
    exact ⟨rfl, rfl, rfl, Or.inl ⟨rfl, rfl⟩⟩
  | some info =>
    rw [kept] at returned
    cases returned
    exact ⟨rfl, rfl, rfl, Or.inr ⟨info, rfl, rfl⟩⟩

end Office

/-- What callers get from a registry that asks the coordinator and began with nothing in its cache,
however many of them there are and whatever happens meanwhile, at the moment they get it.

An address is recent; or else the caller's own lookup has failed, and the address is what the cache
has for the service at that moment, which a lookup of the same service has found as well. A caller
gets a fault only if its own lookup has failed and the cache has nothing for the service. Who is
answered from the cache makes no lookup, and the coordinator is never asked about itself. -/
theorem resolve_interleaved {name : String} {settings : Settings} {table : ServiceTable}
    {turns : List Turn} {turn : Turn} {outcome : Outcome} (positive : 0 < settings.ttl)
    (returned :
      (((Office.start name settings table).run turns).step turn).2 = some outcome) :
    let before := (Office.start name settings table).run turns
    let after := (before.step turn).1
    (∀ info, outcome.result = .ok info →
      after.Recent settings outcome.service info ∨
      (∃ fault, after.HasFailed outcome fault) ∧
        after.registry.cache.get? outcome.service = some info ∧
        ∃ inquiry ∈ after.history, inquiry.Vouches outcome.service info) ∧
    (∀ fault, outcome.result = .error fault →
      after.HasFailed outcome fault ∧ after.registry.cache.get? outcome.service = none) ∧
    (outcome.own = none → after.history = before.history ∧
      ∃ info, outcome.result = .ok info ∧
        before.registry.cache.fresh? outcome.service settings.ttl before.now = some info) ∧
    ∀ inquiry ∈ after.history, inquiry.service = name →
      inquiry.asked? = none ∧
        inquiry.result = inquiry.registry.table.lookup name inquiry.started := by
  intro before after
  have sound : before.Sound name settings := (Office.sound_start table).run turns
  have soundAfter : after.Sound name settings := sound.step turn
  have ownName (inquiry : Inquiry) (member : inquiry ∈ after.history)
      (own : inquiry.service = name) := inquiry.own_name (soundAfter.begun inquiry member).1 own
  rcases Office.step_outcome returned with ⟨location, same, hit, result, none⟩ |
    ⟨place, inquiry, waits, isOver, step⟩
  · have unchanged : after = before := same
    rw [unchanged] at ownName ⊢
    rw [result]
    refine ⟨?_, nofun, ?_, ownName⟩
    · rintro _ ⟨⟩
      exact Or.inl (sound.recent_of_hit hit)
    · intro _
      refine ⟨rfl, location, rfl, ?_⟩
      rw [← sound.sameSettings]
      exact (Office.fresh_of_hit hit).1
  · have pending := Office.pending_of_resolving waits
    have stepped : after = (before.resolved place inquiry).1 := congrArg Prod.fst step
    rw [step] at returned
    cases result : inquiry.result with
    | ok found =>
      have recent := sound.recent_of_ended positive pending isOver result
      cases Office.resolved_ok result returned
      refine ⟨?_, nofun, nofun, ownName⟩
      rintro _ ⟨⟩
      rw [stepped]
      exact Or.inl recent
    | error fault =>
      obtain ⟨sameRegistry, sameService, isOwn, cached⟩ :=
        Office.resolved_error sound.asksCoordinator result returned
      have failed : after.HasFailed outcome fault := by
        rw [stepped]
        exact ⟨inquiry, sound.recorded inquiry pending, isOwn, sameService.symm,
          sound.onTime.ends_eq pending isOver, result⟩
      have sameCache : after.registry.cache = before.registry.cache := by
        rw [stepped, sameRegistry]
      rw [sameCache, sameService, isOwn]
      rcases cached with ⟨unkept, isFault⟩ | ⟨info, kept, isInfo⟩
      · rw [isFault]
        refine ⟨nofun, ?_, nofun, ownName⟩
        rintro _ ⟨⟩
        exact ⟨failed, unkept⟩
      · rw [isInfo]
        refine ⟨?_, nofun, nofun, ownName⟩
        rintro _ ⟨⟩
        obtain ⟨-, voucher, member, vouches⟩ := sound.backed _ _ kept
        refine Or.inr ⟨⟨fault, failed⟩, kept, voucher, ?_, vouches⟩
        rw [stepped]
        exact member

/-- The address of reports, found at 3 and asked for at 7, comes from the cache. -/
theorem resolve_interleaved_cached :
    let table : ServiceTable := Dict.insert ∅ "master" { host := "10.0.0.1", port := "7000" }
    let answer : Answer := ⟨some 3, fun ended => .ok ⟨"10.0.1.1", "7001", false, ended⟩⟩
    let info : Location := ⟨"10.0.1.1", "7001", false, 3⟩
    let before := (Office.start "master" ⟨10, 5, 1, 1, 60⟩ table).run
      [.resolve "reports" answer, .pass 3, .resolved 0, .pass 4]
    let step := before.step (.resolve "reports" answer)
    step.2 = some ⟨"reports", .ok info, none⟩ ∧ step.1.Recent ⟨10, 5, 1, 1, 60⟩ "reports" info := by
  intro table answer info before step
  have returned : step.2 = some ⟨"reports", .ok info, none⟩ := by rfl
  refine ⟨returned, ?_⟩
  rcases (resolve_interleaved (by decide) returned).1 info rfl with
    recent | ⟨⟨_, own, _, isOwn, _⟩, _⟩
  · exact recent
  · cases isOwn

end Registry

end Gatehouse
