import Gatehouse.Gateway.Background
import Gatehouse.Proofs.Pool.Keeping

/-!
Which tasks the signal to stop reaches.

A task that is given a turn ends if the signal was sent since it began to listen. The reloader began
when somebody subscribed the listener that it was handed. The tasks that are started with the
gateway begin when they are started, even if what they are started with has the signal already; so a
start that comes after the signal makes tasks that wait for the next one.
-/

namespace Gatehouse

namespace Background

/-! ## When tasks begin to listen -/

/-- A name listens since it subscribed, before all that happened later. -/
structure Listens (events : List Event) (name : String) (later : List Event) : Prop where
  subscribed : ∃ early, events = early ++ .subscribe name :: later
  latest : .subscribe name ∉ later
  kept : .startReloader name ∉ later

/-- A task has listened while all this happened at the end. -/
inductive Began (events : List Event) : Task → (later : List Event) → Prop where
  /-- It began when it was started. -/
  | resident {task : Task} {early later : List Event} (resident : task ∈ Task.resident)
      (parts : events = early ++ .start :: later) : Began events task later
  /-- It was handed a listener, which had begun before that. -/
  | reloader {name : String} {early between later : List Event}
      (parts : events = early ++ .startReloader name :: later)
      (listens : Listens early name between) :
      Began events .reloader (between ++ .startReloader name :: later)

theorem Listens.last (events : List Event) (name : String) :
    Listens (events ++ [.subscribe name]) name [] :=
  ⟨⟨events, rfl⟩, List.not_mem_nil, List.not_mem_nil⟩

theorem Listens.concat {events later : List Event} {name : String}
    (listens : Listens events name later) {event : Event} (other : event ≠ .subscribe name)
    (keeps : event ≠ .startReloader name) :
    Listens (events ++ [event]) name (later ++ [event]) := by
  obtain ⟨⟨early, rfl⟩, latest, kept⟩ := listens
  refine ⟨⟨early, ?_⟩, ?_, ?_⟩
  · rw [List.append_assoc, List.cons_append]
  · rw [List.mem_append, List.mem_singleton]
    exact not_or.mpr ⟨latest, other.symm⟩
  · rw [List.mem_append, List.mem_singleton]
    exact not_or.mpr ⟨kept, keeps.symm⟩

theorem Began.concat {events later : List Event} {task : Task} (began : Began events task later)
    (event : Event) : Began (events ++ [event]) task (later ++ [event]) := by
  cases began with
  | @resident _ early _ resident parts =>
    have longer : events ++ [event] = early ++ .start :: (later ++ [event]) := by
      rw [parts, List.append_assoc, List.cons_append]
    exact .resident resident longer
  | @reloader name early between rest parts listens =>
    have longer : events ++ [event] = early ++ .startReloader name :: (rest ++ [event]) := by
      rw [parts, List.append_assoc, List.cons_append]
    rw [List.append_assoc, List.cons_append]
    exact .reloader longer listens

/-! ## Counting the sendings -/

def Event.isTrigger : Event → Bool
  | .trigger => true
  | _ => false

/-- How often the signal has been sent. -/
def sendings (events : List Event) : Nat := events.countP Event.isTrigger

theorem sendings_concat (events : List Event) (event : Event) :
    sendings (events ++ [event]) = sendings events + sendings [event] :=
  List.countP_append

theorem sendings_pos_iff {events : List Event} : 0 < sendings events ↔ .trigger ∈ events := by
  rw [sendings, List.countP_pos_iff]
  constructor
  · rintro ⟨event, member, sends⟩
    cases event with
    | trigger => exact member
    | _ => cases sends
  · intro member
    exact ⟨.trigger, member, rfl⟩

/-- Those who listen, and the tasks that run, have not heard what was sent since they began. -/
structure Counts (events : List Event) (b : Background) : Prop where
  sent : b.shutdown.sent = sendings events
  listeners : ∀ {name : String} {behind : Nat}, b.shutdown.listeners.get? name = some behind →
    ∃ later, Listens events name later ∧ behind + sendings later = sendings events
  running : ∀ {running : RunningTask}, running ∈ b.running →
    ∃ later, Began events running.task later ∧ running.behind + sendings later = sendings events

theorem Counts.begin (gateway : Gateway) : Counts [] { gateway } :=
  ⟨rfl, nofun, nofun⟩

variable {events : List Event} {b b' : Background}

theorem sendings_since {later : List Event} {behind : Nat}
    (counted : behind + sendings later = sendings events) (event : Event) :
    behind + sendings (later ++ [event]) = sendings (events ++ [event]) := by
  rw [sendings_concat, sendings_concat, ← Nat.add_assoc, counted]

theorem Counts.listens (counts : Counts events b) {name : String} {behind : Nat}
    (listens : b.shutdown.listeners.get? name = some behind) {event : Event}
    (other : event ≠ .subscribe name) (keeps : event ≠ .startReloader name) :
    ∃ later, Listens (events ++ [event]) name later ∧
      behind + sendings later = sendings (events ++ [event]) := by
  obtain ⟨later, since, counted⟩ := counts.listeners listens
  exact ⟨later ++ [event], since.concat other keeps, sendings_since counted event⟩

theorem Counts.runs (counts : Counts events b) {running : RunningTask}
    (member : running ∈ b.running) (event : Event) :
    ∃ later, Began (events ++ [event]) running.task later ∧
      running.behind + sendings later = sendings (events ++ [event]) := by
  obtain ⟨later, began, counted⟩ := counts.running member
  exact ⟨later ++ [event], began.concat event, sendings_since counted event⟩

/-- Nobody begins to listen at an event that is neither of these three. -/
theorem Counts.passes (counts : Counts events b) {event : Event}
    (other : ∀ name, event ≠ .subscribe name) (keeps : ∀ name, event ≠ .startReloader name)
    (sent : b'.shutdown.sent = b.shutdown.sent + sendings [event])
    (listeners : b'.shutdown.listeners = b.shutdown.listeners)
    (running : b'.running ⊆ b.running) : Counts (events ++ [event]) b' where
  sent := by rw [sent, counts.sent, sendings_concat]
  listeners := by
    intro name behind listens
    rw [listeners] at listens
    exact counts.listens listens (other name) (keeps name)
  running := fun member => counts.runs (running member) event

theorem Counts.subscribe (counts : Counts events b) (name : String) :
    Counts (events ++ [.subscribe name]) (b.step (.subscribe name)) where
  sent := counts.sent.trans (sendings_concat events (.subscribe name)).symm
  listeners := by
    intro asked behind listens
    rcases Dict.get?_insert_eq_some_iff.mp listens with ⟨rfl, rfl⟩ | ⟨different, before⟩
    · exact ⟨[], .last events asked,
        counts.sent.trans (sendings_concat events (.subscribe asked)).symm⟩
    · exact counts.listens before (fun same => different (Event.subscribe.inj same).symm) nofun
  running := fun member => counts.runs member (.subscribe name)

theorem Counts.start (counts : Counts events b) : Counts (events ++ [.start]) (b.step .start) where
  sent := counts.sent.trans (sendings_concat events .start).symm
  listeners := fun listens => counts.listens listens nofun nofun
  running := by
    intro running member
    rcases List.mem_append.mp member with before | new
    · exact counts.runs before .start
    · obtain ⟨task, resident, rfl⟩ := List.mem_map.mp new
      exact ⟨[], .resident resident rfl,
        counts.sent.trans (sendings_concat events .start).symm⟩

/-- The task takes over from the name, which has listened up to now. -/
theorem Counts.startReloader (counts : Counts events b) (listener : String) :
    Counts (events ++ [.startReloader listener]) (b.step (.startReloader listener)) := by
  have silent : sendings (events ++ [.startReloader listener]) = sendings events :=
    sendings_concat events (.startReloader listener)
  have others {name : String} (different : name ≠ listener) :
      Event.startReloader listener ≠ .startReloader name :=
    fun same => different (Event.startReloader.inj same).symm
  rw [step, Background.startReloader]
  cases held : b.shutdown.listeners.get? listener with
  | none =>
    refine ⟨counts.sent.trans silent.symm, ?_, fun member => counts.runs member _⟩
    intro name behind listens
    refine counts.listens listens nofun (others ?_)
    rintro rfl
    rw [held] at listens
    cases listens
  | some behind =>
    refine ⟨counts.sent.trans silent.symm, ?_, ?_⟩
    · intro name behind listens
      obtain ⟨before, different⟩ := Dict.get?_erase_eq_some_iff.mp listens
      exact counts.listens before nofun (others different)
    · intro running member
      rcases List.mem_append.mp member with before | new
      · exact counts.runs before _
      · cases List.mem_singleton.mp new
        obtain ⟨later, since, counted⟩ := counts.listeners held
        exact ⟨later ++ [.startReloader listener], .reloader rfl since, sendings_since counted _⟩

/-! ## A turn -/

/-- What the signal makes of a turn: the task at the place is no longer there. -/
theorem turn_of_sent {place : Nat} {running : RunningTask}
    (present : b.running[place]? = some running) (sent : running.behind < b.shutdown.sent) :
    b.turn place =
      { b with
        running := b.running.eraseIdx place
        gateway := ended running.task b.gateway } := by
  unfold turn Shutdown.hear
  rw [present]
  dsimp only
  rw [if_neg (Nat.not_le.mpr sent)]
  split
  · rename_i nothing
    split at nothing <;> cases nothing
  · rfl

theorem turn_of_unsent {place : Nat} {running : RunningTask}
    (present : b.running[place]? = some running) (unsent : b.shutdown.sent ≤ running.behind) :
    b.turn place = b := by
  unfold turn Shutdown.hear
  rw [present]
  dsimp only
  rw [if_pos unsent]

theorem turn_cases (b : Background) (place : Nat) :
    b.turn place = b ∨
    ∃ running, b.running[place]? = some running ∧ running.behind < b.shutdown.sent ∧
      b.turn place =
        { b with
          running := b.running.eraseIdx place
          gateway := ended running.task b.gateway } := by
  cases present : b.running[place]? with
  | none =>
    left
    unfold turn
    rw [present]
  | some running =>
    rcases Nat.lt_or_ge running.behind b.shutdown.sent with sent | unsent
    · exact Or.inr ⟨running, rfl, sent, turn_of_sent present sent⟩
    · exact Or.inl (turn_of_unsent present unsent)

/-! ## The business of tasks -/

/-- What tasks do apart from listening. -/
def Event.IsBusiness : Event → Prop
  | .refresh _ _ | .sweep _ | .evict _ | .update _ => True
  | _ => False

/-- The business of a task only touches the gateway. -/
theorem step_of_business {event : Event} (business : event.IsBusiness) (b : Background) :
    ∃ gateway, b.step event = { b with gateway } := by
  have doAs_cases (task : Task) (f : Gateway → Gateway) :
      ∃ gateway, b.doAs task f = { b with gateway } := by
    unfold doAs
    split
    · exact ⟨f b.gateway, rfl⟩
    · exact ⟨b.gateway, rfl⟩
  cases event with
  | refresh lookups now =>
    rw [step, refresh]
    exact doAs_cases .refresher _
  | sweep now =>
    rw [step, sweep]
    exact doAs_cases .sweeper _
  | evict now =>
    rw [step, evict]
    exact doAs_cases .evictor _
  | update config =>
    rw [step, update]
    exact doAs_cases .reloader _
  | _ => exact business.elim

/-! ## Runs -/

theorem Counts.business (counts : Counts events b) {event : Event}
    (business : event.IsBusiness) : Counts (events ++ [event]) (b.step event) := by
  obtain ⟨gateway, same⟩ := step_of_business business b
  have silent : sendings [event] = 0 := by
    cases event with
    | trigger => exact business.elim
    | _ => rfl
  rw [same]
  refine counts.passes ?_ ?_ ?_ rfl (List.Subset.refl _)
  · rintro name rfl
    exact business
  · rintro name rfl
    exact business
  · rw [silent, Nat.add_zero]

theorem Counts.step (counts : Counts events b) (event : Event) :
    Counts (events ++ [event]) (b.step event) := by
  cases event with
  | subscribe name => exact counts.subscribe name
  | trigger => exact counts.passes nofun nofun rfl rfl (List.Subset.refl _)
  | start => exact counts.start
  | startReloader listener => exact counts.startReloader listener
  | turn place =>
    rw [Background.step]
    rcases turn_cases b place with same | ⟨running, -, -, same⟩
    · rw [same]
      exact counts.passes nofun nofun rfl rfl (List.Subset.refl _)
    · rw [same]
      exact counts.passes nofun nofun rfl rfl (List.eraseIdx_subset)
  | refresh | sweep | evict | update => exact counts.business trivial

theorem Counts.run (gateway : Gateway) (events : List Event) :
    Counts events (Background.run { gateway } events) := by
  induction events using List.reverseRecOn with
  | nil => exact .begin gateway
  | append_singleton events event ih =>
    rw [Background.run, List.foldl_append]
    exact ih.step event

/-- A task that runs, and has heard all that was sent so far. -/
structure Waits (b : Background) (running : RunningTask) : Prop where
  member : running ∈ b.running
  heard : b.shutdown.sent ≤ running.behind

theorem Waits.business {running : RunningTask} (waits : b.Waits running) {event : Event}
    (business : event.IsBusiness) : (b.step event).Waits running := by
  obtain ⟨gateway, same⟩ := step_of_business business b
  rw [same]
  exact ⟨waits.member, waits.heard⟩

theorem Waits.step {running : RunningTask} (waits : b.Waits running) {event : Event}
    (other : event ≠ .trigger) : (b.step event).Waits running := by
  cases event with
  | subscribe name => exact ⟨waits.member, waits.heard⟩
  | trigger => exact absurd rfl other
  | start => exact ⟨List.mem_append_left _ waits.member, waits.heard⟩
  | startReloader listener =>
    rw [Background.step, startReloader]
    cases b.shutdown.listeners.get? listener with
    | none => exact waits
    | some behind => exact ⟨List.mem_append_left _ waits.member, waits.heard⟩
  | turn place =>
    rw [Background.step]
    rcases turn_cases b place with same | ⟨ending, present, sent, same⟩
    · rw [same]
      exact waits
    · rw [same]
      refine ⟨?_, waits.heard⟩
      obtain ⟨own, atOwn⟩ := List.mem_iff_getElem?.mp waits.member
      -- the task that ends has not heard everything, so it is another one
      have elsewhere : own ≠ place := by
        rintro rfl
        rw [present] at atOwn
        cases atOwn
        exact absurd waits.heard (Nat.not_le.mpr sent)
      exact List.mem_eraseIdx_iff_getElem?.mpr ⟨own, elsewhere, atOwn⟩
  | refresh | sweep | evict | update => exact waits.business trivial

theorem Waits.run {running : RunningTask} (waits : b.Waits running)
    (silent : .trigger ∉ events) : (b.run events).Waits running := by
  induction events generalizing b with
  | nil => exact waits
  | cons event rest ih =>
    rw [List.mem_cons, not_or] at silent
    exact ih (waits.step (Ne.symm silent.1)) silent.2

/-! ## Whom the signal reaches -/

/-- The task at a place ends with its turn. If it is the evictor, it has closed all channels that
were in the pool. -/
structure Leaves (b : Background) (place : Nat) (task : Task) : Prop where
  gone : (b.turn place).running = b.running.eraseIdx place
  emptied : task = .evictor → (b.turn place).gateway.pool.entries = ∅
  closed : task = .evictor → ∀ {address : String} {entry : Pool.Entry} {channel : Channel Line},
    b.gateway.pool.entries.get? address = some entry →
    b.gateway.pool.channels[entry.channel]? = some channel →
    (b.turn place).gateway.pool.channels[entry.channel]? = some { channel with state := .closed }

theorem leaves_of_sent {place : Nat} {running : RunningTask}
    (present : b.running[place]? = some running) (sent : running.behind < b.shutdown.sent) :
    b.Leaves place running.task := by
  have turned := turn_of_sent present sent
  refine ⟨?_, ?_, ?_⟩
  · rw [turned]
  · intro evictor
    rw [turned, evictor]
    rfl
  · intro evictor address entry channel held there
    have listed : entry.channel ∈ b.gateway.pool.entries.entries.map fun e => e.2.channel :=
      List.mem_map.mpr ⟨(address, entry), Dict.mem_entries_iff.mpr held, rfl⟩
    rw [turned, evictor]
    exact Pool.present_closeEach.mpr ⟨channel, there, if_pos listed⟩

/-- What a task has listened since is a start, or what its listener was subscribed with. -/
theorem Began.opens {task : Task} {later : List Event} (began : Began events task later) :
    ∃ event, (event :: later) <:+ events ∧
      (event = .start ∨ ∃ name, event = .subscribe name ∧ .startReloader name ∈ later) := by
  cases began with
  | @resident _ early _ resident parts => exact ⟨.start, ⟨early, parts.symm⟩, Or.inl rfl⟩
  | @reloader name before between rest parts listens =>
    obtain ⟨early, subscribed⟩ := listens.subscribed
    refine ⟨.subscribe name, ⟨early, ?_⟩, Or.inr ⟨name, rfl, ?_⟩⟩
    · rw [parts, subscribed, List.append_assoc, List.cons_append]
    · exact List.mem_append_right _ List.mem_cons_self

theorem Began.trigger_mem {task : Task} {early late later : List Event}
    (began : Began (early ++ .trigger :: late) task later) (noStart : .start ∉ late)
    (noReloader : ∀ name, .subscribe name ∈ late → .startReloader name ∉ late) :
    .trigger ∈ later := by
  obtain ⟨event, ends, opens⟩ := began.opens
  rcases List.suffix_or_suffix_of_suffix ends (List.suffix_append early _) with inside | covers
  · exfalso
    rcases opens with rfl | ⟨name, rfl, takes⟩
    · have member := inside.subset List.mem_cons_self
      rcases List.mem_cons.mp member with same | among
      · cases same
      · exact noStart among
    · have subscribed := inside.subset List.mem_cons_self
      have taken := inside.subset (List.mem_cons_of_mem _ takes)
      rcases List.mem_cons.mp subscribed with same | among
      · cases same
      · rcases List.mem_cons.mp taken with same | takenAmong
        · cases same
        · exact noReloader name among takenAmong
  · rcases List.mem_cons.mp (covers.subset List.mem_cons_self) with rfl | member
    · rcases opens with same | ⟨name, same, -⟩ <;> cases same
    · exact member

/-- Whatever happens to a gateway and its tasks, and in whatever order: a task that is given a turn
leaves if the signal was sent since it began to listen, and else it goes on to wait. So all tasks
leave if none of them began after the signal. But what is started with the gateway after the last
signal is still there, and waits. -/
theorem leaves_once_told (gateway : Gateway) (events : List Event) :
    let b := run { gateway } events
    (∀ place running, b.running[place]? = some running →
      ∃ later, Began events running.task later ∧
        (.trigger ∈ later → b.Leaves place running.task) ∧
        (.trigger ∉ later → b.turn place = b)) ∧
    (∀ early late, events = early ++ .trigger :: late → .start ∉ late →
      (∀ name, .subscribe name ∈ late → .startReloader name ∉ late) →
      ∀ place running, b.running[place]? = some running → b.Leaves place running.task) ∧
    ∀ early later task, events = early ++ .start :: later → .trigger ∉ later →
      task ∈ Task.resident →
      ∃ place running, b.running[place]? = some running ∧ running.task = task ∧
        b.turn place = b := by
  intro b
  have told : ∀ place running, b.running[place]? = some running →
      ∃ later, Began events running.task later ∧
        (.trigger ∈ later → b.Leaves place running.task) ∧
        (.trigger ∉ later → b.turn place = b) := by
    intro place running present
    have counts : Counts events b := .run gateway events
    obtain ⟨later, began, counted⟩ := counts.running (List.mem_of_getElem? present)
    rw [← counts.sent] at counted
    refine ⟨later, began, ?_, ?_⟩
    · intro sent
      exact leaves_of_sent present (counted ▸ Nat.lt_add_of_pos_right (sendings_pos_iff.mpr sent))
    · intro unsent
      have silent : sendings later = 0 :=
        Nat.eq_zero_of_not_pos (mt sendings_pos_iff.mp unsent)
      rw [silent, Nat.add_zero] at counted
      exact turn_of_unsent present (Nat.le_of_eq counted.symm)
  refine ⟨told, ?_, ?_⟩
  · rintro early late rfl noStart noReloader place running present
    obtain ⟨later, began, leaves, -⟩ := told place running present
    exact leaves (began.trigger_mem noStart noReloader)
  · rintro early later task rfl silent resident
    let before := run { gateway } early
    have starts : before.start.Waits ⟨task, before.shutdown.sent⟩ :=
      ⟨List.mem_append_right _ (List.mem_map.mpr ⟨task, resident, rfl⟩), Nat.le_refl _⟩
    have waits : b.Waits ⟨task, before.shutdown.sent⟩ := by
      have split : b = before.start.run later := by
        simp only [b, before, Background.run, List.foldl_append, List.foldl_cons, step]
      rw [split]
      exact starts.run silent
    obtain ⟨place, present⟩ := List.mem_iff_getElem?.mp waits.member
    exact ⟨place, _, present, rfl, turn_of_unsent present waits.heard⟩

/-- A gateway whose tasks are started after the signal, with a listener that has it: they wait. -/
theorem signal_missed :
    ¬ ∀ (gateway : Gateway) (events : List Event), .trigger ∈ events →
      (∀ name, .startReloader name ∉ events) → ∀ place running,
      (run { gateway } events).running[place]? = some running →
      ((run { gateway } events).turn place).running =
        (run { gateway } events).running.eraseIdx place := by
  intro always
  have gone := always (Gateway.build {}) [.subscribe "main", .trigger, .start]
    (List.mem_cons_of_mem _ List.mem_cons_self) nofun 0 ⟨.refresher, 1⟩ rfl
  exact absurd (congrArg List.length gone) (by decide)

end Background

end Gatehouse
