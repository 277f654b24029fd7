import Gatehouse.Forward.Client
import Gatehouse.Proofs.Registry.Addresses
import Gatehouse.Time.Deadline
import Mathlib.Logic.Relation

/-!
What steps do to a client, one act after the other.

An `Act` is one of four things: time passes, messages are sent, what a lookup came to is kept, or
something else is changed. `Acts` is its reflexive-transitive closure, from a moment and a client to
later ones. What a run of acts keeps, and what it sends between its beginning and its end, follows
from the single act.

`Does` says of steps that whatever limit they are given, they come about by such acts, stay within
the limit, and end with a value of some kind; `SendsFirst` says in addition that the first thing
they do is to send something over a channel. Both are closed under the ways in which steps are put
together, so that the parts of a call have to be gone through only once.
-/

namespace Gatehouse

/-- What is within the earlier of two limits is within both. -/
theorem Timed.isWithin_earlier_iff {limit : Option Nat} {last moment : Nat} :
    isWithin (some (earlier limit last)) moment = true ↔
      isWithin limit moment = true ∧ moment ≤ last := by
  cases limit with
  | none => simp only [isWithin, earlier, Option.all_some, Option.all_none, decide_eq_true_eq,
      true_and]
  | some bound => simp only [isWithin, earlier, Option.all_some, decide_eq_true_eq, Nat.le_min]

variable {α β σ : Type}

/-! ## Whole addresses -/

/-- All addresses in the cache are whole. -/
def Registry.AllWhole (registry : Registry) : Prop :=
  ∀ service location, registry.cache.get? service = some location → location.Whole

/-- An address that is whole, or a fault. -/
def Forwarder.IsSound (result : Except Fault Location) : Prop :=
  ∀ location, result = .ok location → location.Whole

open Forwarder (IsSound)

theorem Registry.AllWhole.endResolve {registry : Registry} (allWhole : registry.AllWhole)
    (service : String) {result : Except Fault Location} (now : Nat) (sound : IsSound result) :
    (registry.endResolve service result now).2.1.AllWhole ∧
      IsSound (registry.endResolve service result now).1 := by
  cases result with
  | ok location =>
    have whole := sound location rfl
    refine ⟨fun other kept there => ?_, fun same isLocation => ?_⟩
    · rcases Dict.get?_insert_eq_some_iff.mp there with ⟨-, rfl⟩ | ⟨-, before⟩
      · exact ⟨whole.host, whole.port⟩
      · exact allWhole other kept before
    · cases isLocation
      exact whole
  | error fault =>
    simp only [Registry.endResolve]
    cases stale : registry.stale? service with
    | none =>
      refine ⟨allWhole, fun same isLocation => ?_⟩
      cases isLocation
    | some location =>
      refine ⟨allWhole, fun same isLocation => ?_⟩
      cases isLocation
      exact allWhole service location (get?_of_stale? stale)

/-! ## Acts -/

/-- A client after something was sent. -/
def Client.sending (client : Client σ) (transmission : Transmission) : Client σ :=
  { client with sent := client.sent ++ [transmission] }

/-- A moment and what the client is like then. -/
abbrev Stage (σ : Type) := Nat × Client σ

/-- What may be done, if messages may be sent that are `allowed` at the moment. -/
inductive Act (allowed : Nat → Envelope → Prop) : Stage σ → Stage σ → Prop
  /-- Time passes. -/
  | pass {now later : Nat} {client : Client σ} (order : now ≤ later) :
    Act allowed (now, client) (later, client)
  /-- Messages are sent. -/
  | send {now : Nat} {client : Client σ} (channel : Nat) {messages : List Envelope}
    (good : ∀ m ∈ messages, allowed now m) :
    Act allowed (now, client) (now, client.sending ⟨now, channel, messages⟩)
  /-- What a lookup came to is kept, or an address that stands in for it is found. -/
  | resolved {now : Nat} {client after : Client σ} (service : String)
    {result : Except Fault Location} (sound : IsSound result)
    (registry : after.registry = (client.registry.endResolve service result now).2.1)
    (silent : after.sent = client.sent) : Act allowed (now, client) (now, after)
  /-- Something else is changed. -/
  | change {now : Nat} {client after : Client σ} (registry : after.registry = client.registry)
    (silent : after.sent = client.sent) : Act allowed (now, client) (now, after)

/-- One act after the other. -/
abbrev Acts (allowed : Nat → Envelope → Prop) : Stage σ → Stage σ → Prop :=
  Relation.ReflTransGen (Act allowed)

section Acts

variable {allowed more : Nat → Envelope → Prop} {a b : Stage σ}

theorem Act.order (act : Act allowed a b) : a.1 ≤ b.1 := by
  cases act with
  | pass order => exact order
  | send _ _ | resolved _ _ _ _ | change _ _ => exact Nat.le_refl _

theorem Acts.order (acts : Acts allowed a b) : a.1 ≤ b.1 := by
  induction acts with
  | refl => exact Nat.le_refl _
  | tail _ act ih => exact Nat.le_trans ih act.order

theorem Act.allWhole (act : Act allowed a b) (whole : a.2.registry.AllWhole) :
    b.2.registry.AllWhole := by
  cases act with
  | pass order => exact whole
  | send channel good => exact whole
  | resolved service sound registry silent =>
    rw [registry]
    exact (whole.endResolve service _ sound).1
  | change registry silent =>
    rw [registry]
    exact whole

/-- Addresses in the cache stay whole. -/
theorem Acts.allWhole (acts : Acts allowed a b) (whole : a.2.registry.AllWhole) :
    b.2.registry.AllWhole := by
  induction acts with
  | refl => exact whole
  | tail _ act ih => exact act.allWhole ih

theorem Act.mono (act : Act allowed a b)
    (subset : ∀ moment m, a.1 ≤ moment → allowed moment m → more moment m) : Act more a b := by
  cases act with
  | pass order => exact .pass order
  | send channel good =>
    exact .send channel fun m member => subset _ m (Nat.le_refl _) (good m member)
  | resolved service sound registry silent => exact .resolved service sound registry silent
  | change registry silent => exact .change registry silent

theorem Acts.mono (acts : Acts allowed a b)
    (subset : ∀ moment m, a.1 ≤ moment → allowed moment m → more moment m) : Acts more a b := by
  induction acts with
  | refl => exact .refl
  | tail before act ih =>
    refine .tail ih (act.mono fun moment m later => ?_)
    exact subset moment m (Nat.le_trans (Acts.order before) later)

/-- What one act sends. -/
theorem Act.sent (act : Act allowed a b) :
    ∃ new, b.2.sent = a.2.sent ++ new ∧
      ∀ t ∈ new, t.moment = a.1 ∧ ∀ m ∈ t.messages, allowed t.moment m := by
  cases act with
  | pass order => exact ⟨[], (List.append_nil _).symm, nofun⟩
  | send channel good =>
    refine ⟨_, rfl, fun t member => ?_⟩
    rw [List.mem_singleton.mp member]
    exact ⟨rfl, good⟩
  | resolved _ _ _ silent | change _ silent =>
    exact ⟨[], silent.trans (List.append_nil _).symm, nofun⟩

/-- What a run of acts sends, it sends between its beginning and its end, and it is allowed then. -/
theorem Acts.sent (acts : Acts allowed a b) :
    ∃ new, b.2.sent = a.2.sent ++ new ∧
      ∀ t ∈ new, a.1 ≤ t.moment ∧ t.moment ≤ b.1 ∧ ∀ m ∈ t.messages, allowed t.moment m := by
  induction acts with
  | refl => exact ⟨[], (List.append_nil _).symm, nofun⟩
  | tail before act ih =>
    obtain ⟨old, sent, oldGood⟩ := ih
    obtain ⟨new, sentMore, newGood⟩ := act.sent
    refine ⟨old ++ new, by rw [sentMore, sent, List.append_assoc], fun t member => ?_⟩
    rcases List.mem_append.mp member with early | late
    · obtain ⟨lower, upper, good⟩ := oldGood t early
      exact ⟨lower, Nat.le_trans upper act.order, good⟩
    · obtain ⟨moment, good⟩ := newGood t late
      rw [moment] at good ⊢
      exact ⟨Acts.order before, act.order, good⟩

end Acts

/-! ## Steps -/

/-- A course comes about by acts from a stage on, stays within the limit, unless it takes no time,
and ends with a value of some kind. -/
def Reaches (allowed : Nat → Envelope → Prop) (limit : Option Nat) (start : Stage σ)
    (good : α → Prop) (course : Option (Nat × α) × Client σ) : Prop :=
  ∃ last, Acts allowed start (last, course.2) ∧
    (last = start.1 ∨ Timed.isWithin limit last = true) ∧
    ∀ ended value, course.1 = some (ended, value) → ended = last ∧ good value

/-- Steps that begin at a stage do nothing but acts. -/
def Does (allowed : Nat → Envelope → Prop) (start : Stage σ) (good : α → Prop)
    (steps : Timed (Client σ) α) : Prop :=
  ∀ limit, Reaches allowed limit start good (steps limit start.1 start.2)

namespace Does

variable {allowed : Nat → Envelope → Prop} {start : Stage σ} {good : α → Prop} {fine : β → Prop}

/-- Steps that are over at once, after an act or none. -/
theorem of_act {steps : Timed (Client σ) α} {after : Client σ} {value : α}
    (same : ∀ limit, steps limit start.1 start.2 = (some (start.1, value), after))
    (acts : Acts allowed start (start.1, after)) (isGood : good value) :
    Does allowed start good steps := by
  intro limit
  rw [same limit]
  refine ⟨start.1, acts, Or.inl rfl, ?_⟩
  rintro ended _ isEnd
  cases isEnd
  exact ⟨rfl, isGood⟩

theorem pure {value : α} (isGood : good value) : Does allowed start good (return value) :=
  of_act (fun _ => rfl) .refl isGood

/-- What is done first leads to the stage from which the rest goes on. -/
theorem bind {steps : Timed (Client σ) α} {next : α → Timed (Client σ) β}
    (first : Does allowed start good steps)
    (rest : ∀ stage value, Acts allowed start stage → good value →
      Does allowed stage fine (next value)) : Does allowed start fine (steps >>= next) := by
  intro limit
  obtain ⟨last, acts, inTime, ends⟩ := first limit
  change Reaches allowed limit start fine (steps.bind next limit start.1 start.2)
  unfold Timed.bind
  rcases step : steps limit start.1 start.2 with ⟨_ | ⟨ended, value⟩, after⟩
  · rw [step] at acts
    exact ⟨last, acts, inTime, nofun⟩
  · rw [step] at acts ends
    obtain ⟨rfl, isGood⟩ := ends ended value rfl
    obtain ⟨final, further, finalInTime, finalEnds⟩ := rest (ended, after) value acts isGood limit
    refine ⟨final, acts.trans further, ?_, finalEnds⟩
    rcases finalInTime with atOnce | within
    · rw [atOnce]
      exact inTime
    · exact Or.inr within

theorem mono {more : Nat → Envelope → Prop} {steps : Timed (Client σ) α}
    (does : Does allowed start good steps)
    (subset : ∀ moment m, start.1 ≤ moment → allowed moment m → more moment m) :
    Does more start good steps := by
  intro limit
  obtain ⟨last, acts, inTime, ends⟩ := does limit
  exact ⟨last, Acts.mono acts subset, inTime, ends⟩

/-- Nothing is sent before the beginning. -/
theorem of_later {steps : Timed (Client σ) α}
    (does : Does (fun moment m => start.1 ≤ moment → allowed moment m) start good steps) :
    Does allowed start good steps :=
  does.mono fun _ _ later isAllowed => isAllowed later

theorem imp {other : α → Prop} {steps : Timed (Client σ) α} (does : Does allowed start good steps)
    (weaker : ∀ value, good value → other value) : Does allowed start other steps := by
  intro limit
  obtain ⟨last, acts, inTime, ends⟩ := does limit
  refine ⟨last, acts, inTime, fun ended value isEnd => ?_⟩
  obtain ⟨isLast, isGood⟩ := ends ended value isEnd
  exact ⟨isLast, weaker value isGood⟩

/-- What is read from the clock is the present moment. -/
theorem now_bind {next : Nat → Timed (Client σ) α} (rest : Does allowed start good (next start.1)) :
    Does allowed start good (Timed.now >>= next) :=
  rest

/-- What is read from the state is the client as it is. -/
theorem state_bind {next : Client σ → Timed (Client σ) α}
    (rest : Does allowed start good (next start.2)) :
    Does allowed start good (Timed.state >>= next) :=
  rest

/-- A change that leaves alone the registry and what was sent. -/
theorem step {change : Client σ → α × Client σ}
    (registry : (change start.2).2.registry = start.2.registry)
    (silent : (change start.2).2.sent = start.2.sent) :
    Does allowed start (fun _ => True) (Timed.step change) :=
  of_act (fun _ => rfl) (.single (.change registry silent)) trivial

/-- Waiting for something that was set off with such a change. -/
theorem await {setOff : Nat → Client σ → Delayed α × Client σ}
    (registry : (setOff start.1 start.2).2.registry = start.2.registry)
    (silent : (setOff start.1 start.2).2.sent = start.2.sent) :
    Does allowed start (fun _ => True) (Timed.await setOff) := by
  intro limit
  unfold Timed.await
  rcases begun : setOff start.1 start.2 with ⟨_ | ⟨length, value⟩, after⟩ <;>
    rw [begun] at registry silent <;>
    have changed : Acts allowed start (start.1, after) := .single (.change registry silent)
  · exact ⟨start.1, changed, Or.inl rfl, nofun⟩
  · dsimp only
    split
    · rename_i within
      refine ⟨start.1 + length, changed.tail (.pass (Nat.le_add_right _ _)), Or.inr within, ?_⟩
      rintro ended _ isEnd
      cases isEnd
      exact ⟨rfl, trivial⟩
    · exact ⟨start.1, changed, Or.inl rfl, nofun⟩

/-- Steps that are given up at a moment have done what they did until then. -/
theorem upTo {steps : Timed (Client σ) α} (inner : Does allowed start good steps) (moment : Nat)
    {expired : α} (isGood : good expired) :
    Does allowed start good (steps.upTo moment expired) := by
  intro limit
  have order : start.1 ≤ max start.1 moment := Nat.le_max_left _ _
  obtain ⟨last, acts, inTime, ends⟩ := inner (some (Timed.earlier limit (max start.1 moment)))
  simp only [Timed.upTo]
  generalize max start.1 moment = final at order acts inTime ends ⊢
  have early : last ≤ final ∧ (last = start.1 ∨ Timed.isWithin limit last = true) := by
    rcases inTime with rfl | within
    · exact ⟨order, Or.inl rfl⟩
    · obtain ⟨inside, beforeFinal⟩ := Timed.isWithin_earlier_iff.mp within
      exact ⟨beforeFinal, Or.inr inside⟩
  rcases given : steps (some (Timed.earlier limit final)) start.1 start.2 with
    ⟨_ | ⟨ended, value⟩, after⟩
  · rw [given] at acts
    dsimp only
    split
    · rename_i within
      refine ⟨final, acts.tail (.pass early.1), Or.inr within, ?_⟩
      rintro ended _ isEnd
      cases isEnd
      exact ⟨rfl, isGood⟩
    · exact ⟨last, acts, early.2, nofun⟩
  · rw [given] at acts ends
    exact ⟨last, acts, early.2, ends⟩

/-! ## Steps of a client -/

theorem transmit (channel : Nat) {messages : List Envelope}
    (areAllowed : ∀ m ∈ messages, allowed start.1 m) :
    Does allowed start (fun _ => True) (Client.transmit channel messages) :=
  of_act (fun _ => rfl) (.single (.send channel areAllowed)) trivial

theorem observe (channel : Nat) (status : RpcStatus) :
    Does allowed start (fun _ => True) (Client.observe channel status) :=
  step rfl rfl

theorem record (events : List Metrics.Event) :
    Does allowed start (fun _ => True) (Client.record events) :=
  step rfl rfl

theorem onNetwork (f : Nat → σ → α × σ) :
    Does allowed start (fun _ => True) (Client.onNetwork f) :=
  now_bind (step rfl rfl)

theorem awaitDelayed (delayed : Delayed α) :
    Does allowed start (fun _ => True) (Client.awaitDelayed delayed) :=
  await rfl rfl

theorem wait (length : Nat) : Does allowed start (fun _ => True) (Timed.wait length) :=
  await rfl rfl

theorem line (channel : Nat) : Does allowed start (fun _ => True) (Client.line channel) :=
  state_bind (pure trivial)

theorem enforce (service : String) (deadline : Nat) {work : Timed (Client σ) (Except Fault β)}
    (inner : Does allowed start (fun _ => True) work) :
    Does allowed start (fun _ => True) (Deadline.enforce service deadline work) :=
  now_bind (inner.upTo _ trivial)

end Does

/-! ## Sending first -/

/-- Steps that begin with sending over a channel, before any time has passed. -/
structure SendsFirst (allowed : Nat → Envelope → Prop) (channel : Nat) (start : Stage σ)
    (steps : Timed (Client σ) α) : Prop where
  does : Does allowed start (fun _ => True) steps
  first : ∀ limit, ∃ messages new, (steps limit start.1 start.2).2.sent =
    start.2.sent ++ ⟨start.1, channel, messages⟩ :: new

namespace SendsFirst

variable {allowed : Nat → Envelope → Prop} {channel : Nat} {start : Stage σ}

theorem transmit {messages : List Envelope} (areAllowed : ∀ m ∈ messages, allowed start.1 m) :
    SendsFirst allowed channel start (Client.transmit channel messages) :=
  ⟨.transmit channel areAllowed, fun _ => ⟨messages, [], rfl⟩⟩

theorem bind {steps : Timed (Client σ) α} {next : α → Timed (Client σ) β}
    (first : SendsFirst allowed channel start steps)
    (rest : ∀ stage value, Does allowed stage (fun _ => True) (next value)) :
    SendsFirst allowed channel start (steps >>= next) := by
  refine ⟨first.does.bind fun stage value _ _ => rest stage value, fun limit => ?_⟩
  change ∃ messages new, (steps.bind next limit start.1 start.2).2.sent = _
  obtain ⟨messages, new, sent⟩ := first.first limit
  unfold Timed.bind
  rcases step : steps limit start.1 start.2 with ⟨_ | ⟨ended, value⟩, after⟩
  · rw [step] at sent
    exact ⟨messages, new, sent⟩
  · rw [step] at sent
    obtain ⟨_, acts, -⟩ := rest (ended, after) value limit
    obtain ⟨further, sentMore, -⟩ := Acts.sent acts
    refine ⟨messages, new ++ further, sentMore.trans ?_⟩
    rw [sent, List.append_assoc, List.cons_append]

/-- What takes no time and leaves alone the registry and what was sent may come before. -/
theorem after_change {steps : Timed (Client σ) α} {next : α → Timed (Client σ) β} {value : α}
    {after : Client σ}
    (still : ∀ limit, steps limit start.1 start.2 = (some (start.1, value), after))
    (registry : after.registry = start.2.registry) (silent : after.sent = start.2.sent)
    (rest : SendsFirst allowed channel (start.1, after) (next value)) :
    SendsFirst allowed channel start (steps >>= next) := by
  have reduced (limit : Option Nat) :
      (steps >>= next) limit start.1 start.2 = next value limit start.1 after := by
    change steps.bind next limit start.1 start.2 = _
    rw [Timed.bind, still]
  refine ⟨fun limit => ?_, fun limit => ?_⟩
  · obtain ⟨last, acts, inTime, ends⟩ := rest.does limit
    rw [reduced]
    exact ⟨last, .head (.change registry silent) acts, inTime, ends⟩
  · rw [reduced, ← silent]
    exact rest.first limit

theorem upTo {steps : Timed (Client σ) α} (inner : SendsFirst allowed channel start steps)
    (moment : Nat) (expired : α) :
    SendsFirst allowed channel start (steps.upTo moment expired) := by
  refine ⟨inner.does.upTo moment trivial, fun limit => ?_⟩
  obtain ⟨messages, new, sent⟩ := inner.first (some (Timed.earlier limit (max start.1 moment)))
  refine ⟨messages, new, ?_⟩
  rw [← sent]
  simp only [Timed.upTo]
  rcases steps (some (Timed.earlier limit (max start.1 moment))) start.1 start.2 with
    ⟨_ | result, after⟩ <;> rfl

theorem enforce (service : String) (deadline : Nat) {work : Timed (Client σ) (Except Fault β)}
    (inner : SendsFirst allowed channel start work) :
    SendsFirst allowed channel start (Deadline.enforce service deadline work) :=
  .after_change (fun _ => rfl) rfl rfl (inner.upTo _ _)

end SendsFirst

end Gatehouse
