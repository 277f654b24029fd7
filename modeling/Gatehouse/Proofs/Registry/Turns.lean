import Gatehouse.Proofs.Registry.Inquiry

/-!
A registry that many callers use at once.

Any number of callers may find addresses and any number of refreshes may go on at the same time, and
between the beginning and the end of a lookup anything may happen: other lookups of the same service
begin and end, the sweeper forgets addresses, the table is replaced. A lookup is over at its moment,
so no time passes beyond a lookup that is still going on.

`Office.step` carries out one operation for one of the callers. Whichever operation that is, it does
one of six things: `Office.Course` lists them, with all that was checked for them, and what a turn
leaves alone and what it keeps is a matter of those six. Nothing is assumed here about where the
registry has its addresses from.
-/

namespace Gatehouse

namespace Registry

/-- A refresh: the lookup that is going on, if one is, and the services that remain. -/
structure Round where
  current : Option Inquiry
  rest : List String

/-- A registry at a moment, with what goes on and all lookups made so far. -/
structure Office where
  now : Nat := 0
  registry : Registry
  /-- The lookups that callers wait for. -/
  resolving : List Inquiry := []
  refreshing : List Round := []
  history : List Inquiry := []

/-- An operation on the registry, or a length of time. -/
inductive Turn where
  /-- A caller wants the address of a service. Should the coordinator be asked, it answers so. -/
  | resolve (service : String) (answer : Answer)
  /-- The lookup of a caller is over. -/
  | resolved (place : Nat)
  | refresh
  /-- A refresh goes on to its next service. -/
  | lookNext (place : Nat) (answer : Answer)
  /-- The lookup of a refresh is over. -/
  | refreshed (place : Nat)
  | sweep
  | reload (table : ServiceTable)
  | pass (length : Nat)

/-- What a caller gets, and the lookup that was made for it, unless there was no need. -/
structure Outcome where
  service : String
  result : Except Fault Location
  own : Option Inquiry

namespace Office

/-- The lookups that are going on. -/
def pending (office : Office) : List Inquiry :=
  office.resolving ++ office.refreshing.filterMap Round.current

/-- Begin a lookup. -/
def inquire (office : Office) (service : String) (answer : Answer) : Inquiry :=
  ⟨office.registry, service, office.now, answer⟩

/-- A caller wants the address of a service. -/
def resolve (office : Office) (service : String) (answer : Answer) : Office × Option Outcome :=
  match office.registry.beginResolve service office.now with
  | .hit location => (office, some ⟨service, .ok location, none⟩)
  | .miss _ =>
    let inquiry := office.inquire service answer
    ({ office with
        resolving := office.resolving ++ [inquiry]
        history := office.history ++ [inquiry] }, none)

/-- The lookup of a caller is over. -/
def resolved (office : Office) (place : Nat) (inquiry : Inquiry) : Office × Option Outcome :=
  let (result, registry, _) :=
    office.registry.endResolve inquiry.service inquiry.result office.now
  ({ office with registry, resolving := office.resolving.eraseIdx place },
    some ⟨inquiry.service, result, some inquiry⟩)

/-- A refresh goes on to a service. -/
def lookNext (office : Office) (place : Nat) (service : String) (rest : List String)
    (answer : Answer) : Office :=
  let inquiry := office.inquire service answer
  { office with
    refreshing := office.refreshing.set place ⟨some inquiry, rest⟩
    history := office.history ++ [inquiry] }

/-- The lookup of a refresh is over. -/
def refreshed (office : Office) (place : Nat) (inquiry : Inquiry) (rest : List String) : Office :=
  { office with
    registry := office.registry.endRefresh inquiry.service inquiry.result office.now
    refreshing := office.refreshing.set place ⟨none, rest⟩ }

/-- One turn, and what a caller gets by it. A turn that cannot be taken yet does nothing. -/
def step (office : Office) : Turn → Office × Option Outcome
  | .resolve service answer => office.resolve service answer
  | .resolved place =>
    match office.resolving[place]? with
    | some inquiry =>
      if inquiry.ends ≤ office.now then office.resolved place inquiry else (office, none)
    | none => (office, none)
  | .refresh =>
    ({ office with
        refreshing := office.refreshing ++ [⟨none, office.registry.expired office.now⟩] }, none)
  | .lookNext place answer =>
    match office.refreshing[place]? with
    | some ⟨none, service :: rest⟩ => (office.lookNext place service rest answer, none)
    | _ => (office, none)
  | .refreshed place =>
    match office.refreshing[place]? with
    | some ⟨some inquiry, rest⟩ =>
      if inquiry.ends ≤ office.now then (office.refreshed place inquiry rest, none)
      else (office, none)
    | _ => (office, none)
  | .sweep => ({ office with registry := office.registry.sweep office.now }, none)
  | .reload table => ({ office with registry := office.registry.reload table }, none)
  | .pass length =>
    if office.pending.all fun inquiry => office.now + length ≤ inquiry.ends then
      ({ office with now := office.now + length }, none)
    else (office, none)

def run (office : Office) (turns : List Turn) : Office :=
  turns.foldl (fun office turn => (office.step turn).1) office

/-! ## What a turn does -/

variable {office : Office}

theorem current_set {rounds : List Round} {place : Nat} {round : Round} {inquiry : Inquiry}
    (member : inquiry ∈ (rounds.set place round).filterMap Round.current) :
    inquiry ∈ rounds.filterMap Round.current ∨ round.current = some inquiry := by
  obtain ⟨found, there, isCurrent⟩ := List.mem_filterMap.mp member
  rcases List.mem_or_eq_of_mem_set there with old | rfl
  · exact Or.inl (List.mem_filterMap.mpr ⟨found, old, isCurrent⟩)
  · exact Or.inr isCurrent

theorem pending_of_resolving {place : Nat} {inquiry : Inquiry}
    (waits : office.resolving[place]? = some inquiry) : inquiry ∈ office.pending :=
  List.mem_append_left _ (List.mem_of_getElem? waits)

theorem pending_of_refreshing {place : Nat} {inquiry : Inquiry} {rest : List String}
    (waits : office.refreshing[place]? = some ⟨some inquiry, rest⟩) : inquiry ∈ office.pending :=
  List.mem_append_right _
    (List.mem_filterMap.mpr ⟨⟨some inquiry, rest⟩, List.mem_of_getElem? waits, rfl⟩)

/-- What becomes of an office by a turn. -/
inductive Course (office : Office) : Turn → Office → Prop
  /-- Nothing happens but that a refresh may be there that has not begun. -/
  | idle {turn : Turn} (refreshing : List Round)
      (same : refreshing.filterMap Round.current = office.refreshing.filterMap Round.current) :
    Course office turn { office with refreshing }
  /-- A lookup begins. -/
  | begun {turn : Turn} (service : String) (answer : Answer) (resolving : List Inquiry)
      (refreshing : List Round)
      (mostOld : ∀ inquiry ∈ resolving ++ refreshing.filterMap Round.current,
        inquiry ∈ office.pending ∨ inquiry = office.inquire service answer) :
    Course office turn
      { office with
        resolving, refreshing, history := office.history ++ [office.inquire service answer] }
  /-- A lookup is over. -/
  | ended {turn : Turn} {inquiry : Inquiry} (waits : inquiry ∈ office.pending)
      (isOver : inquiry.ends ≤ office.now) {registry : Registry}
      (keeps : office.registry.Keeps inquiry office.now registry) (resolving : List Inquiry)
      (refreshing : List Round)
      (old : ∀ inquiry ∈ resolving ++ refreshing.filterMap Round.current,
        inquiry ∈ office.pending) :
    Course office turn { office with registry, resolving, refreshing }
  | swept : Course office .sweep { office with registry := office.registry.sweep office.now }
  | reloaded (table : ServiceTable) :
    Course office (.reload table) { office with registry := office.registry.reload table }
  | passed {length : Nat}
      (inTime : ∀ inquiry ∈ office.pending, office.now + length ≤ inquiry.ends) :
    Course office (.pass length) { office with now := office.now + length }

theorem course_resolve {turn : Turn} (service : String) (answer : Answer) :
    office.Course turn (office.resolve service answer).1 := by
  unfold Office.resolve
  cases office.registry.beginResolve service office.now with
  | hit location => exact .idle office.refreshing rfl
  | miss lookup =>
    refine .begun service answer _ office.refreshing ?_
    intro inquiry member
    rw [List.append_assoc, List.mem_append, List.mem_append, List.mem_singleton] at member
    rcases member with old | new | old
    · exact Or.inl (List.mem_append_left _ old)
    · exact Or.inr new
    · exact Or.inl (List.mem_append_right _ old)

theorem course_resolved {turn : Turn} {place : Nat} {inquiry : Inquiry}
    (waits : office.resolving[place]? = some inquiry) (isOver : inquiry.ends ≤ office.now) :
    office.Course turn (office.resolved place inquiry).1 := by
  refine .ended (pending_of_resolving waits) isOver
    (keeps_endResolve office.registry inquiry office.now) _ office.refreshing ?_
  intro other member
  rcases List.mem_append.mp member with remaining | refreshing
  · exact List.mem_append_left _ (List.eraseIdx_subset remaining)
  · exact List.mem_append_right _ refreshing

theorem course_lookNext {turn : Turn} (place : Nat) (service : String) (rest : List String)
    (answer : Answer) : office.Course turn (office.lookNext place service rest answer) := by
  refine .begun service answer office.resolving _ ?_
  intro inquiry member
  rcases List.mem_append.mp member with resolving | refreshing
  · exact Or.inl (List.mem_append_left _ resolving)
  · rcases current_set refreshing with old | new
    · exact Or.inl (List.mem_append_right _ old)
    · cases new
      exact Or.inr rfl

theorem course_refreshed {turn : Turn} {place : Nat} {inquiry : Inquiry} {rest : List String}
    (waits : office.refreshing[place]? = some ⟨some inquiry, rest⟩)
    (isOver : inquiry.ends ≤ office.now) :
    office.Course turn (office.refreshed place inquiry rest) := by
  refine .ended (pending_of_refreshing waits) isOver
    (keeps_endRefresh office.registry inquiry office.now) office.resolving _ ?_
  intro other member
  rcases List.mem_append.mp member with resolving | refreshing
  · exact List.mem_append_left _ resolving
  · rcases current_set refreshing with old | new
    · exact List.mem_append_right _ old
    · cases new

theorem course_step (office : Office) (turn : Turn) : office.Course turn (office.step turn).1 := by
  have nothing {turn : Turn} : office.Course turn office := .idle office.refreshing rfl
  cases turn with
  | resolve service answer => exact course_resolve service answer
  | resolved place =>
    simp only [Office.step]
    split
    · rename_i waits
      split
      · rename_i isOver
        exact course_resolved waits isOver
      · exact nothing
    · exact nothing
  | refresh =>
    refine .idle _ ?_
    rw [List.filterMap_append]
    exact List.append_nil _
  | lookNext place answer =>
    simp only [Office.step]
    split
    · exact course_lookNext _ _ _ _
    · exact nothing
  | refreshed place =>
    simp only [Office.step]
    split
    · rename_i waits
      split
      · rename_i isOver
        exact course_refreshed waits isOver
      · exact nothing
    · exact nothing
  | sweep => exact .swept
  | reload table => exact .reloaded table
  | pass length =>
    simp only [Office.step]
    split
    · rename_i inTime
      refine .passed fun inquiry waits => ?_
      exact of_decide_eq_true (List.all_eq_true.mp inTime inquiry waits)
    · exact nothing

/-! ## What turns leave alone -/

theorem Course.sameMode {turn : Turn} {after : Office} (course : office.Course turn after) :
    after.registry.mode = office.registry.mode := by
  cases course with
  | ended _ _ keeps => cases keeps <;> rfl
  | _ => rfl

theorem Course.sameSettings {turn : Turn} {after : Office} (course : office.Course turn after) :
    after.registry.settings = office.registry.settings := by
  cases course with
  | ended _ _ keeps => cases keeps <;> rfl
  | _ => rfl

/-- Nobody but who brings another table changes the table. -/
theorem Course.sameTable {turn : Turn} {after : Office} (course : office.Course turn after)
    (keepsTable : ∀ table, turn ≠ .reload table) :
    after.registry.table = office.registry.table := by
  cases course with
  | ended _ _ keeps => cases keeps <;> rfl
  | reloaded table => exact absurd rfl (keepsTable table)
  | _ => rfl

/-- No lookup is made but for one that begins at this moment. -/
theorem Course.history_cases {turn : Turn} {after : Office} (course : office.Course turn after)
    {inquiry : Inquiry} (made : inquiry ∈ after.history) :
    inquiry ∈ office.history ∨ ∃ service answer, inquiry = office.inquire service answer := by
  cases course with
  | begun service answer _ _ _ =>
    rcases List.mem_append.mp made with before | new
    · exact Or.inl before
    · exact Or.inr ⟨service, answer, List.mem_singleton.mp new⟩
  | _ => exact Or.inl made

/-- Nothing but the passing of time moves the clock. -/
theorem Course.now_cases {turn : Turn} {after : Office} (course : office.Course turn after) :
    after.now = office.now ∨ ∃ length, turn = .pass length ∧ after.now = office.now + length := by
  cases course with
  | passed _ => exact Or.inr ⟨_, rfl, rfl⟩
  | _ => exact Or.inl rfl

/-- Whatever the cache has after a turn, it had before, or keeps it since this moment. -/
theorem Course.cached {turn : Turn} {after : Office} (course : office.Course turn after)
    {service : String} {location : Location}
    (kept : after.registry.cache.get? service = some location) :
    office.registry.cache.get? service = some location ∨ location.updated = office.now := by
  cases course with
  | ended _ _ keeps =>
    cases keeps with
    | nothing => exact Or.inl kept
    | found _ =>
      rcases Dict.get?_insert_eq_some_iff.mp kept with ⟨-, rfl⟩ | ⟨-, keptBefore⟩
      · exact Or.inr rfl
      · exact Or.inl keptBefore
  | swept => exact Or.inl (Dict.get?_filter_eq_some_iff.mp kept).1
  | _ => exact Or.inl kept

/-! ## What turns keep -/

/-- No lookup that goes on is overdue, and lookups stand behind what the cache has. -/
structure OnTime (office : Office) : Prop where
  recorded : ∀ inquiry ∈ office.pending, inquiry ∈ office.history
  due : ∀ inquiry ∈ office.pending, office.now ≤ inquiry.ends
  backed : office.registry.Backed office.history office.now

/-- An office where nothing has begun. -/
theorem onTime_start (now : Nat) {registry : Registry} (empty : registry.cache = ∅) :
    OnTime { now, registry } where
  recorded := nofun
  due := nofun
  backed := Backed.empty empty

theorem OnTime.ends_eq (onTime : office.OnTime) {inquiry : Inquiry}
    (waits : inquiry ∈ office.pending) (isOver : inquiry.ends ≤ office.now) :
    inquiry.ends = office.now :=
  Nat.le_antisymm isOver (onTime.due inquiry waits)

theorem OnTime.course (onTime : office.OnTime) {turn : Turn} {after : Office}
    (course : office.Course turn after) : after.OnTime := by
  cases course with
  | idle refreshing same =>
    have samePending : office.resolving ++ refreshing.filterMap Round.current = office.pending := by
      rw [same, pending]
    refine ⟨fun inquiry member => ?_, fun inquiry member => ?_, onTime.backed⟩
    · exact onTime.recorded inquiry (samePending ▸ member)
    · exact onTime.due inquiry (samePending ▸ member)
  | begun service answer resolving refreshing mostOld =>
    refine ⟨fun inquiry member => ?_, fun inquiry member => ?_, ?_⟩
    · rcases mostOld inquiry member with old | new
      · exact List.mem_append_left _ (onTime.recorded inquiry old)
      · rw [new]
        exact List.mem_append_right _ List.mem_cons_self
    · rcases mostOld inquiry member with old | new
      · exact onTime.due inquiry old
      · rw [new]
        exact (office.inquire service answer).started_le_ends
    · exact onTime.backed.mono (List.subset_append_left _ _) (Nat.le_refl _)
  | ended waits isOver keeps resolving refreshing old =>
    refine ⟨fun inquiry member => onTime.recorded inquiry (old inquiry member),
      fun inquiry member => onTime.due inquiry (old inquiry member), ?_⟩
    cases keeps with
    | nothing => exact onTime.backed
    | found result =>
      exact onTime.backed.store (onTime.recorded _ waits) (onTime.ends_eq waits isOver) result
  | swept => exact ⟨onTime.recorded, onTime.due, onTime.backed.sweep⟩
  | reloaded table => exact ⟨onTime.recorded, onTime.due, onTime.backed⟩
  | passed inTime =>
    exact ⟨onTime.recorded, inTime,
      onTime.backed.mono (List.Subset.refl _) (Nat.le_add_right _ _)⟩

theorem OnTime.run (onTime : office.OnTime) (turns : List Turn) : (office.run turns).OnTime := by
  induction turns generalizing office with
  | nil => exact onTime
  | cons turn rest ih => exact ih (onTime.course (course_step office turn))

theorem sameSettings_run (office : Office) (turns : List Turn) :
    (office.run turns).registry.settings = office.registry.settings := by
  induction turns generalizing office with
  | nil => rfl
  | cons turn rest ih => exact (ih _).trans (course_step office turn).sameSettings

/-! ## What callers get by a turn -/

/-- A caller gets something at once if the cache has it, and else when its lookup is over. -/
theorem step_outcome {turn : Turn} {outcome : Outcome}
    (returned : (office.step turn).2 = some outcome) :
    (∃ location, (office.step turn).1 = office ∧
      office.registry.beginResolve outcome.service office.now = .hit location ∧
      outcome.result = .ok location ∧ outcome.own = none) ∨
    ∃ place inquiry, office.resolving[place]? = some inquiry ∧ inquiry.ends ≤ office.now ∧
      office.step turn = office.resolved place inquiry := by
  cases turn with
  | resolve service answer =>
    left
    simp only [Office.step, Office.resolve] at returned ⊢
    cases begun : office.registry.beginResolve service office.now with
    | hit location =>
      rw [begun] at returned
      cases returned
      exact ⟨location, rfl, begun, rfl, rfl⟩
    | miss lookup =>
      rw [begun] at returned
      cases returned
  | resolved place =>
    right
    simp only [Office.step] at returned ⊢
    cases waits : office.resolving[place]? with
    | none =>
      rw [waits] at returned
      cases returned
    | some inquiry =>
      rw [waits] at returned
      dsimp only at returned ⊢
      split at returned
      · rename_i isOver
        exact ⟨place, inquiry, waits, isOver, if_pos isOver⟩
      · cases returned
  | refresh => cases returned
  | lookNext place answer =>
    simp only [Office.step] at returned
    split at returned <;> cases returned
  | refreshed place =>
    simp only [Office.step] at returned
    split at returned
    · split at returned <;> cases returned
    · cases returned
  | sweep => cases returned
  | reload table => cases returned
  | pass length =>
    simp only [Office.step] at returned
    split at returned <;> cases returned

/-- An address that the cache has is no older than the time to live. -/
theorem fresh_of_hit {registry : Registry} {service : String} {location : Location} {now : Nat}
    (hit : registry.beginResolve service now = .hit location) :
    registry.cache.fresh? service registry.settings.ttl now = some location ∧
      registry.cache.get? service = some location ∧
      now - location.updated < registry.settings.ttl := by
  unfold Registry.beginResolve at hit
  cases fresh : registry.cache.fresh? service registry.settings.ttl now with
  | none =>
    rw [fresh] at hit
    cases hit
  | some found =>
    rw [fresh] at hit
    cases hit
    have both := fresh
    rw [LocationCache.fresh?, Option.filter_eq_some_iff] at both
    obtain ⟨kept, young⟩ := both
    exact ⟨rfl, kept, of_decide_eq_true young⟩

/-- The end of a lookup that has found something. -/
theorem resolved_ok {place : Nat} {inquiry : Inquiry} {found : Location} {outcome : Outcome}
    (result : inquiry.result = .ok found)
    (returned : (office.resolved place inquiry).2 = some outcome) :
    outcome = ⟨inquiry.service, .ok found, some inquiry⟩ := by
  simp only [Office.resolved, result, endResolve, Option.some.injEq] at returned
  exact returned.symm

end Office

end Registry

end Gatehouse
