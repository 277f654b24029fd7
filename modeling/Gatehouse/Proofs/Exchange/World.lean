import Gatehouse.Exchange.Run

/-!
Exchanges in a world.

An exchange says what is sent, and nothing about what comes back. A `World` says the rest: the time
of day, and what comes of each message, given all that has happened before. As a world may depend on
the whole past, the worlds are all the ways in which backends can behave, those that never answer
among them.

`Exchange.follow` is the history that an exchange makes in a world, and what it ends with.
`follow_bind` takes the history of a composed exchange apart. `run_eq_follow` shows that an exchange
carried out against backends on a clock makes the history that it makes in their world, and
`received_run` that the messages in that history are those that the backends receive.
-/

namespace Gatehouse

namespace Exchange

/-- Something that happened: the time of day was read, or something was sent, with what came of it,
if anything ever did. -/
inductive Event where
  | clock (now : Int)
  | call (context : CallContext) (service method : String) (request : Envelope)
      (result : Option (Except Fault Reply))
  | upload (context : CallContext) (service : String) (template : Envelope)
      (source : Upload.Source) (result : Option (Except Fault Upload.Summary))

/-- Something that is sent to a service. -/
inductive Message where
  | call (context : CallContext) (service method : String) (request : Envelope)
  | upload (context : CallContext) (service : String) (template : Envelope)
      (source : Upload.Source)
  deriving DecidableEq

def Event.message? : Event → Option Message
  | .clock _ => none
  | .call context service method request _ => some (.call context service method request)
  | .upload context service template source _ => some (.upload context service template source)

/-- What was sent, in order. -/
def messages (events : List Event) : List Message :=
  events.filterMap Event.message?

/-- The time of day and what comes of messages, given what has happened before. -/
structure World where
  timeOfDay : (past : List Event) → Int
  call : (past : List Event) → CallContext → (service method : String) → Envelope →
    Option (Except Fault Reply)
  upload : (past : List Event) → CallContext → (service : String) → Envelope → Upload.Source →
    Option (Except Fault Upload.Summary)

variable {α β σ : Type}

/-- All that has happened when an exchange is over that begins after `past`, and what it ends with.
It never ends if something that it sends is never answered. -/
def follow (world : World) (past : List Event) : Exchange α → List Event × Option α
  | done value => (past, some value)
  | .clock next =>
    let now := world.timeOfDay past
    (next now).follow world (past ++ [.clock now])
  | call context service method request next =>
    match world.call past context service method request with
    | some result =>
      (next result).follow world (past ++ [.call context service method request (some result)])
    | none => (past ++ [.call context service method request none], none)
  | upload context service template source next =>
    match world.upload past context service template source with
    | some result =>
      (next result).follow world (past ++ [.upload context service template source (some result)])
    | none => (past ++ [.upload context service template source none], none)

/-! ## Histories -/

@[simp] theorem messages_nil : messages [] = [] := rfl

@[simp] theorem messages_append (first rest : List Event) :
    messages (first ++ rest) = messages first ++ messages rest :=
  List.filterMap_append

@[simp] theorem messages_clock (now : Int) : messages [.clock now] = [] := rfl

@[simp] theorem messages_call (context : CallContext) (service method : String)
    (request : Envelope) (result : Option (Except Fault Reply)) :
    messages [.call context service method request result] =
      [.call context service method request] := rfl

@[simp] theorem messages_upload (context : CallContext) (service : String) (template : Envelope)
    (source : Upload.Source) (result : Option (Except Fault Upload.Summary)) :
    messages [.upload context service template source result] =
      [.upload context service template source] := rfl

@[simp] theorem follow_return (world : World) (past : List Event) (value : α) :
    (return value : Exchange α).follow world past = (past, some value) := rfl

@[simp] theorem follow_timeOfDay (world : World) (past : List Event) :
    timeOfDay.follow world past =
      (past ++ [.clock (world.timeOfDay past)], some (world.timeOfDay past)) := rfl

/-- What follows an exchange begins with its history, and not at all if it never ends. -/
theorem follow_bind (world : World) (past : List Event) (exchange : Exchange α)
    (after : α → Exchange β) :
    (exchange >>= after).follow world past =
      match exchange.follow world past with
      | (events, some value) => (after value).follow world events
      | (events, none) => (events, none) := by
  change (exchange.bind after).follow world past = _
  induction exchange generalizing past with
  | done value => rfl
  | clock next ih => exact ih _ _
  | call context service method request next ih =>
    simp only [Exchange.bind, follow]
    cases world.call past context service method request with
    | none => rfl
    | some result => exact ih _ _
  | upload context service template source next ih =>
    simp only [Exchange.bind, follow]
    cases world.upload past context service template source with
    | none => rfl
    | some result => exact ih _ _

/-! ## Backends on a clock -/

/-- The moment and the state of backends after one event. -/
def replayEvent (backend : Backend σ) (limit : Option Nat) (before : Nat × σ) :
    Event → Nat × σ
  | .clock _ => before
  | .call context service method request _ =>
    match backend.call context service method request limit before.1 before.2 with
    | (some (ended, _), state) => (ended, state)
    | (none, state) => (before.1, state)
  | .upload context service template source _ =>
    match backend.upload context service template source limit before.1 before.2 with
    | (some (ended, _), state) => (ended, state)
    | (none, state) => (before.1, state)

/-- The moment and the state of backends after what has happened. -/
def replay (backend : Backend σ) (limit : Option Nat) (start : Nat × σ) (past : List Event) :
    Nat × σ :=
  past.foldl (replayEvent backend limit) start

/-- The world that backends make which are waited for up to a limit. -/
def World.ofBackend (backend : Backend σ) (clock : Nat → Int) (limit : Option Nat)
    (start : Nat × σ) : World where
  timeOfDay past := clock (replay backend limit start past).1
  call past context service method request :=
    let (now, state) := replay backend limit start past
    (backend.call context service method request limit now state).1.map (·.2)
  upload past context service template source :=
    let (now, state) := replay backend limit start past
    (backend.upload context service template source limit now state).1.map (·.2)

theorem replay_append (backend : Backend σ) (limit : Option Nat) (start : Nat × σ)
    (past : List Event) (event : Event) :
    replay backend limit start (past ++ [event]) =
      replayEvent backend limit (replay backend limit start past) event := by
  simp only [replay, List.foldl_append, List.foldl_cons, List.foldl_nil]

theorem run_from (backend : Backend σ) (clock : Nat → Int) (limit : Option Nat)
    (start : Nat × σ) (past : List Event) (exchange : Exchange α) :
    (exchange.run backend clock) limit (replay backend limit start past).1
        (replay backend limit start past).2 =
      match exchange.follow (.ofBackend backend clock limit start) past with
      | (events, value) =>
        (value.map fun v => ((replay backend limit start events).1, v),
          (replay backend limit start events).2) := by
  induction exchange generalizing past with
  | done value => rfl
  | clock next ih =>
    have later := ih (clock (replay backend limit start past).1)
      (past ++ [.clock (clock (replay backend limit start past).1)])
    rw [replay_append] at later
    exact later
  | call context service method request next ih =>
    rcases answer : backend.call context service method request limit
        (replay backend limit start past).1 (replay backend limit start past).2 with
      ⟨_ | ⟨ended, result⟩, state⟩
    · simp [run, follow, Timed.bind, World.ofBackend, answer, replay_append, replayEvent]
    · have later := ih result (past ++ [.call context service method request (some result)])
      rw [replay_append] at later
      simpa [run, follow, Timed.bind, World.ofBackend, replayEvent, answer] using later
  | upload context service template source next ih =>
    rcases answer : backend.upload context service template source limit
        (replay backend limit start past).1 (replay backend limit start past).2 with
      ⟨_ | ⟨ended, result⟩, state⟩
    · simp [run, follow, Timed.bind, World.ofBackend, answer, replay_append, replayEvent]
    · have later := ih result (past ++ [.upload context service template source (some result)])
      rw [replay_append] at later
      simpa [run, follow, Timed.bind, World.ofBackend, replayEvent, answer] using later

/-- An exchange carried out against backends makes the history that it makes in their world: it ends
at the moment and with the value that it ends with there, and leaves the backends as they are after
that history. -/
theorem run_eq_follow (backend : Backend σ) (clock : Nat → Int) (limit : Option Nat) (now : Nat)
    (state : σ) (exchange : Exchange α) :
    (exchange.run backend clock) limit now state =
      match exchange.follow (.ofBackend backend clock limit (now, state)) [] with
      | (events, value) =>
        (value.map fun v => ((replay backend limit (now, state) events).1, v),
          (replay backend limit (now, state) events).2) :=
  run_from backend clock limit (now, state) [] exchange


end Exchange

/-! ## What backends receive -/

namespace Backend

open Exchange

variable {σ α : Type}

/-- Backends that also write down what is sent to them. -/
def recording (backend : Backend σ) : Backend (σ × List Message) where
  call context service method request limit now before :=
    let (result, state) := backend.call context service method request limit now before.1
    (result, state, before.2 ++ [.call context service method request])
  upload context service template source limit now before :=
    let (result, state) := backend.upload context service template source limit now before.1
    (result, state, before.2 ++ [.upload context service template source])

theorem replayEvent_recording (backend : Backend σ) (limit : Option Nat) (now : Nat) (state : σ)
    (written : List Message) (event : Event) :
    (replayEvent backend.recording limit (now, state, written) event).2.2 =
      written ++ messages [event] := by
  cases event with
  | clock now => exact (List.append_nil _).symm
  | call context service method request result =>
    rcases answer : backend.call context service method request limit now state with
      ⟨_ | ⟨ended, _⟩, after⟩
    · simp only [replayEvent, recording, answer, messages_call]
    · simp only [replayEvent, recording, answer, messages_call]
  | upload context service template source result =>
    rcases answer : backend.upload context service template source limit now state with
      ⟨_ | ⟨ended, _⟩, after⟩
    · simp only [replayEvent, recording, answer, messages_upload]
    · simp only [replayEvent, recording, answer, messages_upload]

theorem replay_recording (backend : Backend σ) (limit : Option Nat) (now : Nat) (state : σ)
    (written : List Message) (events : List Event) :
    (replay backend.recording limit (now, state, written) events).2.2 =
      written ++ messages events := by
  induction events generalizing now state written with
  | nil => exact (List.append_nil _).symm
  | cons event rest ih =>
    rcases moved : replayEvent backend.recording limit (now, state, written) event with
      ⟨ended, after, more⟩
    have first := replayEvent_recording backend limit now state written event
    rw [moved] at first
    have later := ih ended after more
    simp only [replay, List.foldl_cons, moved]
    rw [← replay, later]
    simp only at first
    rw [first, List.append_assoc, ← messages_append, List.singleton_append]

/-- What backends receive in the course of an exchange is what is sent in the history that it makes
in their world. -/
theorem received_run (backend : Backend σ) (clock : Nat → Int) (limit : Option Nat) (now : Nat)
    (state : σ) (exchange : Exchange α) :
    ((exchange.run backend.recording clock) limit now (state, [])).2.2 =
      messages (exchange.follow
        (.ofBackend backend.recording clock limit (now, state, [])) []).1 := by
  rw [run_eq_follow]
  rcases exchange.follow (.ofBackend backend.recording clock limit (now, state, [])) [] with
    ⟨events, value⟩
  exact replay_recording backend limit now state [] events

end Backend

end Gatehouse
