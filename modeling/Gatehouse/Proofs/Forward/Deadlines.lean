import Gatehouse.Proofs.Forward.Sends

/-!
Calls and the deadline of the client's request.

All that is done for a call, from a moment on, is done within whatever limit it is given. But the
deadline of a request is no limit for getting a connection: it is for what is done over the
connection, once it is there. So a call ends by the deadline exactly if the connection is there by
then, or has failed by then. With a connection that comes later, the call is over at that moment,
and something is sent all the same.
-/

namespace Gatehouse

variable {α β σ : Type}

/-- A course that is over by a moment. -/
def EndsBy (bound : Nat) (course : Option (Nat × α) × Client σ) : Prop :=
  ∃ ended value, course.1 = some (ended, value) ∧ ended ≤ bound

/-- A course of a client that is over by a moment, after which nothing is sent. -/
def KeepsTo (bound : Nat) (client : Client σ) (course : Option (Nat × α) × Client σ) : Prop :=
  EndsBy bound course ∧
    ∃ new, course.2.sent = client.sent ++ new ∧ ∀ t ∈ new, t.moment ≤ bound

/-- A course that is over at a moment, at which something is sent over a channel. -/
def SendsAt (moment channel : Nat) (client : Client σ) (course : Option (Nat × α) × Client σ) :
    Prop :=
  (∃ value, course.1 = some (moment, value)) ∧
    ∃ messages more, course.2.sent = client.sent ++ ⟨moment, channel, messages⟩ :: more

section Courses

variable {allowed : Nat → Envelope → Prop} {bound now ended : Nat} {client after : Client σ}
  {value : α}

theorem endsBy_some_iff :
    EndsBy bound ((some (ended, value), after) : Option (Nat × α) × Client σ) ↔ ended ≤ bound := by
  refine ⟨?_, fun early => ⟨ended, value, rfl, early⟩⟩
  rintro ⟨_, _, same, early⟩
  cases same
  exact early

theorem not_endsBy_none : ¬ EndsBy bound ((none, after) : Option (Nat × α) × Client σ) :=
  fun ⟨_, _, never, _⟩ => nomatch never

/-- What acts have led to is over by a moment, and then nothing is sent after it either. -/
theorem keepsTo_some_iff (acts : Acts allowed (now, client) (ended, after)) :
    KeepsTo bound client (some (ended, value), after) ↔ ended ≤ bound := by
  refine ⟨fun keeps => endsBy_some_iff.mp keeps.1, fun early => ⟨endsBy_some_iff.mpr early, ?_⟩⟩
  obtain ⟨new, sent, during⟩ := Acts.sent acts
  exact ⟨new, sent, fun t member => Nat.le_trans (during t member).2.1 early⟩

end Courses

namespace Deadline

theorem effective_le (timeout now bound : Nat) : effective timeout (some bound) now ≤ bound := by
  unfold effective
  dsimp only
  split
  · exact Nat.le_refl _
  · rename_i sooner
    exact Nat.le_of_not_lt sooner

/-- Work under a deadline is over by then or, if the deadline has passed, at once. -/
theorem enforce_ends {allowed : Nat → Envelope → Prop} {start : Stage σ}
    {work : Timed (Client σ) (Except Fault β)} (service : String) (deadline : Nat)
    (does : Does allowed start (fun _ => True) work) :
    ∃ ended value after,
      enforce service deadline work none start.1 start.2 = (some (ended, value), after) ∧
        ended ≤ max start.1 deadline ∧ Acts allowed start (ended, after) := by
  obtain ⟨last, acts, inTime, ends⟩ := does (some (max start.1 deadline))
  have early : last ≤ max start.1 deadline := by
    rcases inTime with rfl | within
    · exact Nat.le_max_left _ _
    · exact of_decide_eq_true within
  have reduced : enforce service deadline work none start.1 start.2 =
    work.upTo deadline (.error (.timeout service (deadline - start.1))) none start.1 start.2 := rfl
  rw [reduced]
  unfold Timed.upTo
  dsimp only [Timed.earlier]
  rcases given : work (some (max start.1 deadline)) start.1 start.2 with
    ⟨_ | ⟨ended, value⟩, after⟩
  · rw [given] at acts
    exact ⟨_, _, after, rfl, Nat.le_refl _, acts.tail (.pass early)⟩
  · rw [given] at acts ends
    obtain ⟨rfl, -⟩ := ends ended value rfl
    exact ⟨ended, value, after, rfl, early, acts⟩

end Deadline

namespace Forwarder

variable {f : Forwarder α σ} {context : CallContext} {service : String} {bound now : Nat}
  {client after : Client σ} {timeout : ServiceTable → String → Nat}
  {work : Nat → Timed (Client σ) (Except Fault β)}

theorem overConnection_none (connecting : f.connect service none now client = (none, after)) :
    f.overConnection f.acquire context service timeout work none now client = (none, after) := by
  change Timed.bind (f.connect service) _ none now client = _
  rw [Timed.bind, connecting]

theorem overConnection_error {ended : Nat} {fault : Fault}
    (connecting : f.connect service none now client = (some (ended, .error fault), after)) :
    f.overConnection f.acquire context service timeout work none now client =
      (some (ended, .error fault), after) := by
  change Timed.bind (f.connect service) _ none now client = _
  rw [Timed.bind, connecting]
  rfl

theorem overConnection_ok {ended channel : Nat}
    (connecting : f.connect service none now client = (some (ended, .ok channel), after)) :
    f.overConnection f.acquire context service timeout work none now client =
      Deadline.enforce service
        (Deadline.effective (timeout after.registry.table service) context.deadline ended)
        (work channel) none ended after := by
  change Timed.bind (f.connect service) _ none now client = _
  rw [Timed.bind, connecting]
  rfl

/-- The deadline is kept exactly if the connection is there by then, or has failed by then. -/
theorem keepsTo_iff (limited : context.deadline = some bound)
    (works : ∀ stage channel, Does (fun _ _ => True) stage (fun _ => True) (work channel)) :
    KeepsTo bound client
        (f.overConnection f.acquire context service timeout work none now client) ↔
      EndsBy bound (f.connect service none now client) := by
  have connects : Does (fun _ _ => True) (now, client) (fun _ => True) (f.connect service) :=
    f.does_connect (fun _ _ _ => trivial) service
  obtain ⟨last, acts, -, ends⟩ := connects none
  dsimp only at acts ends
  rcases connecting : f.connect service none now client with ⟨_ | ⟨ended, fault | channel⟩, after⟩
  · rw [overConnection_none connecting]
    exact iff_of_false (fun keeps => not_endsBy_none keeps.1) not_endsBy_none
  · rw [connecting] at acts ends
    obtain ⟨rfl, -⟩ := ends ended _ rfl
    rw [overConnection_error connecting, keepsTo_some_iff acts, endsBy_some_iff]
  · -- the work begins when the connection is there, and only then is there a deadline for it
    rw [connecting] at acts ends
    obtain ⟨rfl, -⟩ := ends ended _ rfl
    rw [overConnection_ok connecting, limited, endsBy_some_iff]
    have sooner := Deadline.effective_le (timeout after.registry.table service) ended bound
    obtain ⟨last, value, left, worked, inTime, further⟩ :=
      Deadline.enforce_ends service _ (works (ended, after) channel)
    rw [worked, keepsTo_some_iff (acts.trans further)]
    exact ⟨Nat.le_trans (Acts.order further),
      fun early => Nat.le_trans inTime (Nat.max_le.mpr ⟨early, sooner⟩)⟩

/-- Over a connection that is there after the deadline something is sent all the same. -/
theorem sendsAt_late {late channel : Nat} (limited : context.deadline = some bound)
    (tooLate : bound < late)
    (connecting : f.connect service none now client = (some (late, .ok channel), after))
    (sends : SendsFirst (fun _ _ => True) channel (late, after) (work channel)) :
    SendsAt late channel after
      (f.overConnection f.acquire context service timeout work none now client) := by
  rw [overConnection_ok connecting, limited]
  have sooner := Deadline.effective_le (timeout after.registry.table service) late bound
  obtain ⟨last, value, left, worked, inTime, acts⟩ :=
    Deadline.enforce_ends service
      (Deadline.effective (timeout after.registry.table service) (some bound) late) sends.does
  obtain ⟨messages, more, sent⟩ := (sends.enforce service
    (Deadline.effective (timeout after.registry.table service) (some bound) late)).first none
  -- what is left of the deadline is the moment itself, at which steps that need no time are done
  rw [Nat.max_eq_left (Nat.le_trans sooner (Nat.le_of_lt tooLate))] at inTime
  cases Nat.le_antisymm inTime (Acts.order acts)
  rw [worked] at sent ⊢
  exact ⟨⟨value, rfl⟩, messages, more, sent⟩

end Forwarder

/-- A call and an upload for a request with a deadline are over by the deadline, with nothing sent
after it, exactly if the connection that they need is there by then, or has failed by then. Over a
connection that is there only later, the work is still begun at that moment, and is over then. -/
theorem deadline_kept_iff [Quantity α] (f : Forwarder α σ) {context : CallContext} {bound : Nat}
    (limited : context.deadline = some bound) (now : Nat) (service method : String)
    (request template : Envelope) (source : Upload.Source) (client : Client σ) :
    let connecting := f.connect service none now client
    let called := f.call context service method request none now client
    let uploaded := f.upload context service template source none now client
    (KeepsTo bound client called ↔ EndsBy bound connecting) ∧
    (KeepsTo bound client uploaded ↔ EndsBy bound connecting) ∧
    ∀ late channel after, bound < late → connecting = (some (late, .ok channel), after) →
      SendsAt late channel after called ∧ SendsAt late channel after uploaded := by
  intro connecting called uploaded
  refine ⟨?_, ?_, fun late channel after tooLate connected => ⟨?_, ?_⟩⟩
  · exact Forwarder.keepsTo_iff limited fun _ channel =>
      (f.sendsFirst_attempts service channel fun _ => trivial).does
  · exact Forwarder.keepsTo_iff limited fun _ channel =>
      (f.sendsFirst_stream channel source fun _ _ _ => trivial).does
  · exact Forwarder.sendsAt_late limited tooLate connected
      (f.sendsFirst_attempts service channel fun _ => trivial)
  · exact Forwarder.sendsAt_late limited tooLate connected
      (f.sendsFirst_stream channel source fun _ _ _ => trivial)

namespace Forwarder

/-- Backends that answer at once, on a network on which a dial takes some time. -/
def dialingFor (length : Nat) : Forwarder Rat Unit where
  caller := { retry := .ofLimits 1 ⟨0, 0, 1⟩, chunkSize := 1 }
  gate := .unconfigured
  network := {
    dial := fun _ _ _ network => (some (length, .ok ()), network)
    call := fun _ _ _ network => (some (0, .ok {}), network)
    stream := fun _ _ _ network => (⟨none, some (0, .finished 0)⟩, network) }
  files := fun _ => .error .notFound
  clock := fun _ => 0

end Forwarder

/-- A client of a single backend, to which there is no connection yet. -/
def Client.ofReports : Client Unit where
  registry := {
    mode := .static
    settings := ⟨60, 3, 30, 60, 600⟩
    table := Dict.insert ∅ "reports" { host := "10.0.0.2", port := "7001" } }
  pool := { ttl := 600 }
  network := ()

/-- A dial that takes one unit of time leaves enough for a call with a deadline after three. -/
theorem deadline_kept_dialed :
    let f := Forwarder.dialingFor 1
    let context : CallContext := ⟨"r", some 3⟩
    KeepsTo 3 Client.ofReports (f.call context "reports" "GET" {} none 0 Client.ofReports) := by
  intro f context
  have limited : context.deadline = some 3 := rfl
  have connected : ((Forwarder.dialingFor 1).connect "reports" none 0 Client.ofReports).1 =
      some (1, .ok 0) := by rfl
  have kept := deadline_kept_iff f limited 0 "reports" "GET" {} {} (.single "f" []) Client.ofReports
  exact kept.1.mpr ⟨1, .ok 0, connected, by decide⟩

/-- A dial that takes ten units of time delays a call with a deadline after three. -/
theorem deadline_missed :
    ¬ ∀ (f : Forwarder Rat Unit) (context : CallContext) (bound now : Nat) (client : Client Unit),
      context.deadline = some bound → now ≤ bound →
      KeepsTo bound client (f.call context "reports" "GET" {} none now client) := by
  intro always
  have keeps := always (Forwarder.dialingFor 10) ⟨"r", some 3⟩ 3 0 Client.ofReports rfl (by decide)
  obtain ⟨⟨ended, value, called, inTime⟩, -⟩ := keeps
  have late : ((Forwarder.dialingFor 10).call ⟨"r", some 3⟩ "reports" "GET" {} none 0
      Client.ofReports).1 = some (10, .ok {}) := by rfl
  rw [late] at called
  cases called
  exact absurd inTime (by decide)

end Gatehouse
