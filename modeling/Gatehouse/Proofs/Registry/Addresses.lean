import Gatehouse.Proofs.Registry.Sweeping

/-!
Addresses that are whole.

An address is read from a row of the table or from a reply of the coordinator, and either is refused
if its host or its port is empty. `Inquiry.Source` says from which of the two a lookup has an
address; a reply that carries a code gives none. Since the cache keeps only what lookups have found,
and an address that stands in for another one comes from the cache, every address that a registry
keeps or hands out has been through one of the two.
-/

namespace Gatehouse

/-- An address that can be dialed. -/
structure Location.Whole (location : Location) : Prop where
  host : location.host ≠ ""
  port : location.port ≠ ""

theorem isEmpty_or_eq_false_iff {s t : String} :
    ¬ (s.isEmpty || t.isEmpty) = true ↔ s ≠ "" ∧ t ≠ "" := by
  rw [Bool.or_eq_true, String.isEmpty_iff, String.isEmpty_iff, not_or]

/-! ## Rows and replies -/

theorem ServiceTable.whole_of_lookup {table : ServiceTable} {service : String} {now : Nat}
    {location : Location} (gives : table.lookup service now = .ok location) :
    location.Whole ∧ ∃ row, table.row? service = some row ∧ location.host = row.host ∧
      location.port = row.port := by
  unfold lookup at gives
  split at gives
  · cases gives
  · rename_i row found
    split at gives
    · cases gives
    · rename_i full
      obtain ⟨host, port⟩ := isEmpty_or_eq_false_iff.mp full
      cases gives
      exact ⟨⟨host, port⟩, row, found, rfl, rfl⟩

/-- What is read from a reply is what it says under its names, unless there is a code. -/
theorem Coordinator.whole_of_readReply {service : String} {data : Dict Any} {now : Nat}
    {location : Location} (read : readReply service data now = .ok location) :
    location.Whole ∧ value? data "httpcode" = none ∧ location.host = textOf data "host" ∧
      location.port = portOf data := by
  unfold readReply at read
  split at read
  · cases read
  · rename_i uncoded
    dsimp only at read
    split at read
    · cases read
    · rename_i full
      obtain ⟨host, port⟩ := isEmpty_or_eq_false_iff.mp full
      cases read
      exact ⟨⟨host, port⟩, uncoded, rfl, rfl⟩

namespace Registry

/-- The answer of a coordinator that replies, or cannot be called. -/
def Answer.ofReply (service : String) (latency : Option Nat) (reply : Except Fault (Dict Any)) :
    Answer where
  latency
  read ended := reply.bind fun data => Coordinator.readReply service data ended

/-- An answer that is read from a reply, whatever that may be. -/
def Answer.IsReply (answer : Answer) : Prop :=
  ∃ service latency reply, answer = .ofReply service latency reply

/-! ## Lookups -/

/-- The table answers if the coordinator is not asked, and only for the service itself. -/
theorem table_of_answered {registry : Registry} {service : String} {now : Nat}
    {result : Except Fault Location} {found : Location}
    (begun : registry.lookup service now = .answered result) (ok : result = .ok found) :
    registry.table.lookup service now = .ok found := by
  unfold Registry.lookup at begun
  split at begun
  · cases begun
    exact ok
  · split at begun
    · cases begun
      cases ok
    · rename_i location gives
      split at begun
      · rename_i own
        cases begun
        cases ok
        rw [own]
        exact gives
      · cases begun

/-- A coordinator that is asked has an address that is whole. -/
theorem whole_of_ask {registry : Registry} {service name : String} {now : Nat}
    {location : Location} (begun : registry.lookup service now = .ask name location) :
    location.Whole := by
  unfold Registry.lookup at begun
  split at begun
  · cases begun
  · split at begun
    · cases begun
    · rename_i gives
      split at begun
      · cases begun
      · cases begun
        exact (ServiceTable.whole_of_lookup gives).1

/-- An answer that is waited for either comes in time or is no address. -/
theorem read_of_await {registry : Registry} {service : String} {started : Nat} {answer : Answer}
    {found : Location} (waited : (registry.await service started answer).2 = .ok found) :
    ∃ ended, answer.read ended = .ok found := by
  unfold Registry.await at waited
  dsimp only at waited
  split at waited
  · split at waited
    · exact ⟨_, waited⟩
    · cases waited
  · cases waited

namespace Inquiry

/-- Where a lookup has an address from: a row of the table as it was when the lookup began, or a
reply without a code. -/
inductive Source (inquiry : Inquiry) (location : Location) : Prop
  | row {row : Config.Service} (asked : inquiry.asked? = none)
    (found : inquiry.registry.table.row? inquiry.service = some row)
    (host : location.host = row.host) (port : location.port = row.port)
  | reply {service : String} {latency : Option Nat} {data : Dict Any}
    (answer : inquiry.answer = .ofReply service latency (.ok data))
    (uncoded : Coordinator.value? data "httpcode" = none)
    (host : location.host = Coordinator.textOf data "host")
    (port : location.port = Coordinator.portOf data)

theorem ofReply_whole {service : String} {latency : Option Nat} {reply : Except Fault (Dict Any)}
    {ended : Nat} {location : Location}
    (read : (Answer.ofReply service latency reply).read ended = .ok location) :
    location.Whole ∧ ∃ data, reply = .ok data ∧ Coordinator.value? data "httpcode" = none ∧
      location.host = Coordinator.textOf data "host" ∧
      location.port = Coordinator.portOf data := by
  cases reply with
  | error fault => cases read
  | ok data =>
    obtain ⟨whole, said⟩ := Coordinator.whole_of_readReply read
    exact ⟨whole, data, rfl, said⟩

/-- Whatever a lookup finds is whole, and is from a row or a reply. -/
theorem whole_of_result {inquiry : Inquiry} (replies : inquiry.answer.IsReply)
    {found : Location} (result : inquiry.result = .ok found) :
    found.Whole ∧ inquiry.Source found := by
  unfold Inquiry.result Inquiry.outcome at result
  split at result
  · rename_i answered begun
    have unasked : inquiry.asked? = none := by
      rw [Inquiry.asked?, begun]
    obtain ⟨whole, row, there, host, port⟩ :=
      ServiceTable.whole_of_lookup (table_of_answered begun result)
    exact ⟨whole, .row unasked there host port⟩
  · obtain ⟨service, latency, reply, isReply⟩ := replies
    obtain ⟨ended, read⟩ := read_of_await result
    rw [isReply] at read
    obtain ⟨whole, data, said, uncoded, host, port⟩ := ofReply_whole read
    exact ⟨whole, .reply (said ▸ isReply) uncoded host port⟩

end Inquiry

/-! ## Lookups of a run -/

/-- The answer that a turn brings along for a lookup that it may begin. -/
def Turn.answer? : Turn → Option Answer
  | .resolve _ answer => some answer
  | .lookNext _ answer => some answer
  | _ => none

/-- A turn whose coordinator replies, or cannot be called. -/
def Turn.Replies (turn : Turn) : Prop :=
  ∀ answer ∈ turn.answer?, answer.IsReply

namespace Office

/-- A lookup that is new has the answer that the turn brings along. -/
theorem history_step {office : Office} {turn : Turn} {inquiry : Inquiry}
    (made : inquiry ∈ (office.step turn).1.history) :
    inquiry ∈ office.history ∨ turn.answer? = some inquiry.answer := by
  cases turn with
  | resolve service answer =>
    simp only [Office.step, Office.resolve] at made
    split at made
    · exact Or.inl made
    · rcases List.mem_append.mp made with before | new
      · exact Or.inl before
      · rw [List.mem_singleton.mp new]
        exact Or.inr rfl
  | lookNext place answer =>
    simp only [Office.step] at made
    split at made
    · rcases List.mem_append.mp made with before | new
      · exact Or.inl before
      · rw [List.mem_singleton.mp new]
        exact Or.inr rfl
    · exact Or.inl made
  | resolved place =>
    simp only [Office.step] at made
    split at made
    · split at made <;> exact Or.inl made
    · exact Or.inl made
  | refreshed place =>
    simp only [Office.step] at made
    split at made
    · split at made <;> exact Or.inl made
    · exact Or.inl made
  | pass length =>
    simp only [Office.step] at made
    split at made <;> exact Or.inl made
  | refresh => exact Or.inl made
  | sweep => exact Or.inl made
  | reload table => exact Or.inl made

/-- An office whose lookups have all been answered by replies. -/
structure Honest (office : Office) : Prop where
  onTime : office.OnTime
  replies : ∀ inquiry ∈ office.history, inquiry.answer.IsReply

theorem Honest.step {office : Office} (honest : office.Honest) {turn : Turn}
    (replies : turn.Replies) : (office.step turn).1.Honest where
  onTime := honest.onTime.course (course_step office turn)
  replies inquiry made := by
    rcases history_step made with before | new
    · exact honest.replies inquiry before
    · exact replies inquiry.answer new

theorem Honest.run {office : Office} (honest : office.Honest) {turns : List Turn}
    (replies : ∀ turn ∈ turns, turn.Replies) : (office.run turns).Honest := by
  induction turns generalizing office with
  | nil => exact honest
  | cons turn rest ih =>
    exact ih (honest.step (replies turn List.mem_cons_self)) fun other member =>
      replies other (List.mem_cons_of_mem _ member)

/-- An address is whole, and a lookup of the service has it from a row or from a reply without a
code. -/
def Traces (office : Office) (service : String) (location : Location) : Prop :=
  location.Whole ∧ ∃ inquiry ∈ office.history, inquiry.service = service ∧
    inquiry.Found location ∧ inquiry.Source location

variable {office : Office}

theorem Honest.traces (honest : office.Honest) {inquiry : Inquiry} (made : inquiry ∈ office.history)
    {location : Location} (found : inquiry.Found location) :
    office.Traces inquiry.service location := by
  obtain ⟨exactly, result, host, port, internal⟩ := found
  obtain ⟨⟨hostFull, portFull⟩, source⟩ :=
    Inquiry.whole_of_result (honest.replies inquiry made) result
  have same : inquiry.Source location := by
    cases source with
    | row asked there isHost isPort =>
      exact .row asked there (host ▸ isHost) (port ▸ isPort)
    | reply answer uncoded isHost isPort =>
      exact .reply answer uncoded (host ▸ isHost) (port ▸ isPort)
  exact ⟨⟨host ▸ hostFull, port ▸ portFull⟩, inquiry, made, rfl,
    ⟨exactly, result, host, port, internal⟩, same⟩

/-- What the cache keeps. -/
theorem Honest.cached (honest : office.Honest) {service : String} {location : Location}
    (kept : office.registry.cache.get? service = some location) :
    office.Traces service location := by
  obtain ⟨-, inquiry, made, vouches⟩ := honest.onTime.backed service location kept
  exact vouches.sameService ▸ honest.traces made vouches.found

/-- What a caller gets: from the cache, from its own lookup, or in place of what that should have
found. -/
theorem Honest.returned (honest : office.Honest) {turn : Turn} {outcome : Outcome}
    {info : Location} (returned : (office.step turn).2 = some outcome)
    (result : outcome.result = .ok info) : office.Traces outcome.service info := by
  rcases Office.step_outcome returned with ⟨location, -, hit, isLocation, -⟩ |
    ⟨place, inquiry, waits, -, step⟩
  · rw [isLocation] at result
    cases result
    exact honest.cached (fresh_of_hit hit).2.1
  · rw [step] at returned
    obtain ⟨sameService, own | cached⟩ := resolved_info returned result
    · rw [sameService]
      exact honest.traces (honest.onTime.recorded inquiry (pending_of_resolving waits))
        ⟨info, own, rfl, rfl, rfl⟩
    · rw [sameService]
      exact honest.cached cached

end Office

end Registry

end Gatehouse
