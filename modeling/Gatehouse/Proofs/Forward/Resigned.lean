import Gatehouse.Proofs.Forward.Sends

/-!
Signs on requests that backends send back.

A backend may send the request back with its reply, and with a sign on it. `Forwarder.resigned` is a
forwarder on a network where every such sign is replaced by another one. What it does is what is done
on the original network, with a function applied to what it comes to (`<$>`): calls have other signs
on the requests that are sent back, and nothing else is different. Questions to the coordinator come
to exactly the same, so that the signs do not even matter for addresses.
-/

namespace Gatehouse

/-- A reply with another sign on the request that it sends back, if it sends one back. -/
def Reply.resigned (forge : Envelope → Option String) (reply : Reply) : Reply :=
  { reply with back := reply.back.map fun back => { back with sign := forge back } }

/-- The session that an envelope takes over does not depend on the sign that was sent back. -/
theorem Session.echoReply_resigned (request : Envelope) (forge : Envelope → Option String)
    (reply : Reply) : echoReply request (reply.resigned forge) = echoReply request reply := by
  unfold echoReply Reply.resigned
  cases reply.back <;> rfl

/-- A network that puts other signs on the requests that it sends back. -/
def Network.resigned {σ : Type} (forge : Envelope → Option String) (network : Network σ) :
    Network σ where
  dial := network.dial
  call line request now before :=
    let (delayed, after) := network.call line request now before
    (delayed.map fun (length, result) => (length, result.map (Reply.resigned forge)), after)
  stream := network.stream

/-! ## Functions of what steps come to -/

namespace Timed

variable {σ α β : Type}

/-- One after the other, steps are put together as the laws of monads say. -/
instance : LawfulMonad (Timed σ) := by
  refine .mk' (Timed σ) (fun steps => ?_) (fun _ _ => rfl) (fun steps next last => ?_)
  · funext limit now state
    change steps.bind (fun value => Timed.pure value) limit now state = steps limit now state
    unfold Timed.bind
    rcases steps limit now state with ⟨_ | ⟨ended, value⟩, after⟩ <;> rfl
  · funext limit now state
    change (steps.bind next).bind last limit now state =
      steps.bind (fun value => (next value).bind last) limit now state
    unfold Timed.bind
    rcases steps limit now state with ⟨_ | ⟨ended, value⟩, after⟩ <;> rfl

theorem map_apply (f : α → β) (steps : Timed σ α) (limit : Option Nat) (now : Nat) (state : σ) :
    (f <$> steps) limit now state =
      ((steps limit now state).1.map fun (ended, value) => (ended, f value),
        (steps limit now state).2) := by
  change steps.bind (fun value => Timed.pure (f value)) limit now state = _
  unfold Timed.bind
  rcases steps limit now state with ⟨_ | ⟨ended, value⟩, after⟩ <;> rfl

theorem upTo_map (f : α → β) (steps : Timed σ α) (moment : Nat) (expired : α) :
    (f <$> steps).upTo moment (f expired) = f <$> steps.upTo moment expired := by
  funext limit now state
  rw [map_apply]
  simp only [Timed.upTo, map_apply]
  rcases steps (some (earlier limit (max now moment))) now state with ⟨_ | ⟨ended, value⟩, after⟩
  · simp only [Option.map_none]
    split <;> rfl
  · rfl

end Timed

/-- A deadline has no part in what work in time comes to. -/
theorem Deadline.enforce_map {σ α β : Type} (f : α → β) (service : String) (deadline : Nat)
    (work : Timed σ (Except Fault α)) :
    enforce service deadline (Except.map f <$> work) =
      Except.map f <$> enforce service deadline work := by
  unfold enforce
  rw [map_bind]
  refine bind_congr fun started => ?_
  exact Timed.upTo_map (Except.map f) work deadline (.error (.timeout service (deadline - started)))

theorem RetryPolicy.retryFrom_map {α σ β γ : Type} [Quantity α] (policy : RetryPolicy α)
    (jitter : Nat → Nat) (f : β → γ) (call : Nat → Timed σ (Except RpcStatus β))
    (budget attempt : Nat) :
    policy.retryFrom jitter (fun n => Except.map f <$> call n) budget attempt =
      Except.map f <$> policy.retryFrom jitter call budget attempt := by
  induction budget generalizing attempt with
  | zero => rfl
  | succ budget ih =>
    unfold retryFrom
    rw [bind_map_left, map_bind]
    refine bind_congr fun result => ?_
    cases result with
    | ok value => rw [map_pure]; rfl
    | error status =>
      simp only [Except.map]
      split
      · rw [map_bind]
        exact bind_congr fun _ => ih (attempt + 1)
      · rw [map_pure]; rfl

namespace Client

variable {σ α β : Type}

theorem awaitDelayed_map (f : α → β) (delayed : Delayed α) :
    (Client.awaitDelayed (delayed.map fun (length, value) => (length, f value)) :
        Timed (Client σ) β) = f <$> Client.awaitDelayed delayed := by
  funext limit now client
  rw [Timed.map_apply]
  simp only [Client.awaitDelayed, Timed.await]
  rcases delayed with _ | ⟨length, value⟩
  · rfl
  · simp only [Option.map_some]
    split <;> rfl

end Client

namespace Forwarder

variable {α β σ : Type} (f : Forwarder α σ) (forge : Envelope → Option String)

/-- A forwarder on a network that puts other signs on the requests that it sends back. -/
def resigned : Forwarder α σ :=
  { f with network := f.network.resigned forge }

theorem deliver_resigned (channel : Nat) (request : Envelope) :
    (f.resigned forge).deliver channel request =
      Except.map (Reply.resigned forge) <$> f.deliver channel request := by
  unfold deliver
  simp only [map_bind]
  refine bind_congr fun _ => bind_congr fun line => ?_
  simp only [← Client.awaitDelayed_map]
  rfl

/-! ## Connections -/

theorem ask_resigned (name : String) (coordinator : Location) (service : String) :
    (f.resigned forge).askBy f.acquire name coordinator service =
      f.askBy f.acquire name coordinator service := by
  unfold askBy
  refine bind_congr fun acquired => ?_
  cases acquired with
  | error fault => rfl
  | ok channel =>
    refine bind_congr fun now => ?_
    dsimp only
    rw [deliver_resigned, bind_map_left]
    refine bind_congr fun delivered => ?_
    cases delivered <;> rfl

/-- Connections do not depend on the signs that are sent back. -/
theorem connect_resigned (service : String) :
    (f.resigned forge).connect service = f.connect service := by
  have sameAddress : (f.resigned forge).resolveBy f.acquire service = f.resolve service :=
    f.resolveBy_congr (fun name service coordinator _ => ask_resigned f forge name coordinator
      service) service
  change (f.resigned forge).resolveBy f.acquire service >>= _ = f.resolve service >>= _
  rw [sameAddress]
  rfl

/-! ## Calls and uploads -/

variable [Quantity α]

theorem attempts_resigned (service : String) (channel : Nat) (request : Envelope) :
    (f.resigned forge).attempts service channel request =
      Except.map (Reply.resigned forge) <$> f.attempts service channel request := by
  unfold attempts
  rw [map_bind]
  refine bind_congr fun started => ?_
  simp only [deliver_resigned, RetryPolicy.retry, RetryPolicy.retryFrom_map]
  rw [bind_map_left, map_bind]
  refine bind_congr fun result => ?_
  cases result with
  | ok reply => rfl
  | error status => rfl

/-- A call comes to the same, but for the sign on the request that is sent back. -/
theorem call_resigned (context : CallContext) (service method : String) (request : Envelope) :
    (f.resigned forge).call context service method request =
      Except.map (Reply.resigned forge) <$> f.call context service method request := by
  change (f.resigned forge).connect service >>= _ = _ <$> (f.connect service >>= _)
  rw [connect_resigned, map_bind]
  refine bind_congr fun connected => ?_
  cases connected with
  | error fault => rfl
  | ok channel =>
    simp only [map_bind, attempts_resigned, Deadline.enforce_map]
    rfl

omit [Quantity α] in
/-- Nothing is sent back with an upload. -/
theorem upload_resigned (context : CallContext) (service : String) (template : Envelope)
    (source : Upload.Source) :
    (f.resigned forge).upload context service template source =
      f.upload context service template source := by
  change (f.resigned forge).connect service >>= _ = f.connect service >>= _
  rw [connect_resigned]
  rfl

end Forwarder

end Gatehouse
