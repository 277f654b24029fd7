import Gatehouse.Forward.Call
import Gatehouse.Proofs.Forward.Acts

/-!
What is done for a call, and what is sent.

Every function that a call or an upload is put together from is gone through here once, and what it
does is said by `Does`. Getting a connection sends nothing but the question to the coordinator, and
an address that it has found is whole. The request of a call is sent once for each attempt, and an
upload sends copies of its template. Both begin with sending, over the connection that they have got.
-/

namespace Gatehouse

variable {α β σ : Type}

namespace Forwarder

variable {allowed : Nat → Envelope → Prop} {start : Stage σ} (f : Forwarder α σ)

/-! ## Connections -/

theorem does_dial (line : Line) : Does allowed start (fun _ => True) (f.dial line) := by
  unfold dial
  split
  · exact .pure trivial
  · refine (Does.onNetwork _).bind fun _ delayed _ _ => ?_
    refine (Does.awaitDelayed delayed).bind fun _ dialed _ _ => ?_
    cases dialed with
    | ok _ => exact .pure trivial
    | error reason => exact .pure trivial

theorem does_acquire (host port : String) :
    Does allowed start (fun _ => True) (f.acquire host port) := by
  unfold acquire
  refine .now_bind ?_
  refine (Does.step rfl rfl).bind fun _ acquisition _ _ => ?_
  cases acquisition with
  | refused fault => exact .pure trivial
  | reused channel => exact .pure trivial
  | dialing address =>
    refine (does_dial f _).bind fun _ dialed _ _ => ?_
    exact .now_bind (.step rfl rfl)

/-- A request that is delivered is sent once, at once. -/
theorem sendsFirst_deliver (channel : Nat) {request : Envelope}
    (isAllowed : allowed start.1 request) :
    SendsFirst allowed channel start (f.deliver channel request) := by
  unfold deliver
  refine (SendsFirst.transmit (List.forall_mem_singleton.mpr isAllowed)).bind fun _ _ => ?_
  refine (Does.line channel).bind fun _ line _ _ => ?_
  exact (Does.onNetwork _).bind fun _ delayed _ _ => .awaitDelayed delayed

/-! ## Addresses -/

/-- How coordinators are asked, at whole addresses, is all that an address depends on. -/
theorem resolveBy_congr {g : Forwarder α σ} {acquire other : Acquiring σ}
    (sameAsk : ∀ name service {coordinator : Location}, coordinator.Whole →
      g.askBy other name coordinator service = f.askBy acquire name coordinator service)
    (service : String) : g.resolveBy other service = f.resolveBy acquire service := by
  have sameFind (registry : Registry) (moment : Nat) :
      g.findBy other service (registry.lookup service moment) =
        f.findBy acquire service (registry.lookup service moment) := by
    cases begun : registry.lookup service moment with
    | answered result => rfl
    | ask name coordinator =>
      simp only [findBy, sameAsk name service (Registry.whole_of_ask begun)]
  unfold resolveBy
  refine bind_congr fun now => bind_congr fun client => bind_congr fun _ => ?_
  unfold Registry.beginResolve
  cases client.registry.cache.fresh? service client.registry.settings.ttl now with
  | some location => rfl
  | none =>
    dsimp only
    rw [sameFind]

section Addresses

-- The question to the coordinator is allowed at the moment it is asked.
variable (asks : ∀ moment name service,
  allowed moment (f.gate.stamp (f.clock moment) (Coordinator.lookupRequest name service)))

include asks

theorem does_ask (name : String) (coordinator : Location) (service : String) :
    Does allowed start IsSound (f.askBy f.acquire name coordinator service) := by
  unfold askBy
  refine (does_acquire f _ _).bind fun asking acquired _ _ => ?_
  cases acquired with
  | error fault => exact .pure nofun
  | ok channel =>
    refine .now_bind ?_
    refine (sendsFirst_deliver f channel (asks asking.1 name service)).does.bind
      fun _ delivered _ _ => ?_
    cases delivered with
    | ok reply =>
      exact .now_bind (.pure fun location read => (Coordinator.whole_of_readReply read).1)
    | error status => exact (Does.observe channel status).bind fun _ _ _ _ => .pure nofun

/-- A row of the table that a lookup comes to is whole, and so is what the coordinator replies. -/
theorem does_find (registry : Registry) (service : String) (moment : Nat) :
    Does allowed start IsSound (f.findBy f.acquire service (registry.lookup service moment)) := by
  cases begun : registry.lookup service moment with
  | answered result =>
    refine .pure fun location ok => ?_
    exact (ServiceTable.whole_of_lookup (Registry.table_of_answered begun ok)).1
  | ask name coordinator =>
    exact .state_bind (.now_bind ((does_ask f asks name coordinator service).upTo _ nofun))

/-- An address is found by a lookup or in the cache. -/
theorem does_resolve (service : String) :
    Does allowed start (fun result => start.2.registry.AllWhole → IsSound result)
      (f.resolve service) := by
  unfold resolve resolveBy
  refine .now_bind (.state_bind ?_)
  refine (Does.record _).bind fun _ _ began _ => ?_
  unfold Registry.beginResolve
  cases fresh : start.2.registry.cache.fresh? service start.2.registry.settings.ttl start.1 with
  | some location =>
    refine .pure fun allWhole same isLocation => ?_
    cases isLocation
    exact allWhole service location (Option.filter_eq_some_iff.mp fresh).1
  | none =>
    refine (does_find f asks _ _ _).bind fun found result further sound => .now_bind ?_
    refine .of_act (fun _ => rfl) (.single (.resolved service sound rfl rfl)) fun allWhole => ?_
    exact ((Acts.allWhole (began.trans further) allWhole).endResolve service found.1 sound).2

theorem does_connect (service : String) :
    Does allowed start (fun _ => True) (f.connect service) := by
  refine (does_resolve f asks service).bind fun _ resolved _ _ => ?_
  cases resolved with
  | error fault => exact .pure trivial
  | ok location => exact does_acquire f _ _

theorem does_overConnection (context : CallContext) (service : String)
    {timeout : ServiceTable → String → Nat} {work : Nat → Timed (Client σ) (Except Fault β)}
    (works : ∀ stage channel, Does allowed stage (fun _ => True) (work channel)) :
    Does allowed start (fun _ => True)
      (f.overConnection f.acquire context service timeout work) := by
  refine (does_connect f asks service).bind fun stage connected _ _ => ?_
  cases connected with
  | error fault => exact .pure trivial
  | ok channel => exact .state_bind (.now_bind (.enforce service _ (works stage channel)))

end Addresses

/-! ## Calls -/

section Calls

variable [Quantity α] {request : Envelope}

/-- Whatever is left of the budget, the first thing is an attempt. -/
theorem sendsFirst_retryFrom (policy : RetryPolicy α) (jitter : Nat → Nat) (channel : Nat)
    (isAllowed : ∀ moment, allowed moment request) (budget attempt : Nat) :
    SendsFirst allowed channel start
      (policy.retryFrom jitter (fun _ => f.deliver channel request) budget attempt) := by
  induction budget generalizing start attempt with
  | zero => exact sendsFirst_deliver f channel (isAllowed start.1)
  | succ budget ih =>
    unfold RetryPolicy.retryFrom
    refine (sendsFirst_deliver f channel (isAllowed start.1)).bind fun _ delivered => ?_
    cases delivered with
    | ok reply => exact .pure trivial
    | error status =>
      dsimp only
      split
      · exact (Does.wait _).bind fun _ _ _ _ => (ih (attempt + 1)).does
      · exact .pure trivial

theorem sendsFirst_attempts (service : String) (channel : Nat)
    (isAllowed : ∀ moment, allowed moment request) :
    SendsFirst allowed channel start (f.attempts service channel request) := by
  unfold attempts
  refine .after_change (fun _ => rfl) rfl rfl ?_
  refine (sendsFirst_retryFrom f _ _ channel isAllowed _ _).bind fun _ result => ?_
  cases result with
  | ok reply => exact .pure trivial
  | error status =>
    exact (Does.observe channel status).bind fun _ _ _ _ => .now_bind (.pure trivial)

theorem does_call (context : CallContext) (service method : String)
    (asks : ∀ moment name service,
      allowed moment (f.gate.stamp (f.clock moment) (Coordinator.lookupRequest name service)))
    (isAllowed : ∀ moment, allowed moment (outbound method request)) :
    Does allowed start (fun _ => True) (f.call context service method request) :=
  does_overConnection f asks context service fun _ channel =>
    (sendsFirst_attempts f service channel isAllowed).does

end Calls

end Forwarder

/-! ## Uploads -/

namespace Upload

/-- An encoder pushes nothing but messages of a kind. -/
def PushesOnly (kind : Envelope → Prop) (sending : Sending β) : Prop :=
  ∀ box : Outbox, (∀ m ∈ box.accepted, kind m) → ∀ m ∈ (sending box).2.accepted, kind m

namespace PushesOnly

variable {kind : Envelope → Prop}

theorem pure (value : β) : PushesOnly kind (Sending.pure value) :=
  fun _ old => old

theorem fail (fault : Fault) : PushesOnly kind (Sending.fail (α := β) fault) :=
  fun _ old => old

theorem bind {γ : Type} {first : Sending β} {next : β → Sending γ} (pushes : PushesOnly kind first)
    (rest : ∀ value, PushesOnly kind (next value)) : PushesOnly kind (first.bind next) := by
  intro box old
  have between := pushes box old
  unfold Sending.bind
  rcases step : first box with ⟨fault | value, after⟩
  · rw [step] at between
    exact between
  · rw [step] at between
    exact rest value after between

theorem push {envelope : Envelope} (isKind : kind envelope) : PushesOnly kind (push envelope) := by
  intro box old m member
  unfold Upload.push at member
  split at member
  · exact old m member
  · rcases List.mem_cons.mp member with rfl | earlier
    · exact isKind
    · exact old m earlier
  · rcases List.mem_cons.mp member with rfl | earlier
    · exact isKind
    · exact old m earlier

theorem pushAll {envelopes : List Envelope} (areKind : ∀ m ∈ envelopes, kind m) :
    PushesOnly kind (pushAll envelopes) := by
  induction envelopes with
  | nil => exact pure ()
  | cons envelope rest ih =>
    refine (push (areKind envelope List.mem_cons_self)).bind fun _ => ih ?_
    intro m member
    exact areKind m (List.mem_cons_of_mem _ member)

end PushesOnly

variable {kind : Envelope → Prop} {template : Envelope}

section Files

-- A copy of the template is of the kind, whatever its argument.
variable (copies : ∀ key value, kind (message template key value))

include copies

theorem pushesOnly_pushFrames (filename : String) {size : Nat} (buffer : Buffer size) (total : Nat)
    (frames : List Frame) :
    PushesOnly kind (pushFrames template filename buffer total frames) := by
  induction frames generalizing buffer total with
  | nil =>
    unfold pushFrames
    split
    · exact PushesOnly.pure _
    · exact (PushesOnly.push (copies _ _)).bind fun _ => PushesOnly.pure _
  | cons frame rest ih =>
    cases frame with
    | failed reason => exact PushesOnly.fail _
    | data bytes =>
      unfold pushFrames
      refine (PushesOnly.pushAll ?_).bind fun _ => ih _ _
      intro m member
      obtain ⟨piece, _, rfl⟩ := List.mem_map.mp member
      exact copies _ _

theorem pushesOnly_pushFile (size : Nat) (filename : String) (frames : List Frame) :
    PushesOnly kind (pushFile template size filename frames) := by
  refine (PushesOnly.push (copies _ _)).bind fun _ => ?_
  refine (pushesOnly_pushFrames copies _ _ _ _).bind fun _ => ?_
  exact (PushesOnly.push (copies _ _)).bind fun _ => PushesOnly.pure _

theorem pushesOnly_pushParts (size : Nat) (failure : Option String) (files bytes : Nat)
    (parts : List Part) :
    PushesOnly kind (pushParts template size failure files bytes parts) := by
  induction parts generalizing files bytes with
  | nil =>
    unfold pushParts
    split
    · exact PushesOnly.fail _
    · exact PushesOnly.pure _
  | cons part rest ih =>
    unfold pushParts
    split
    · exact ih _ _
    · exact (pushesOnly_pushFile copies size _ _).bind fun _ => ih _ _

/-- Every message of an upload is a copy of the template with an argument of its own. -/
theorem pushesOnly_pushSource (size : Nat) (source : Source) :
    PushesOnly kind (pushSource template size source) := by
  cases source with
  | single filename frames =>
    exact (pushesOnly_pushFile copies size filename frames).bind fun _ => PushesOnly.pure _
  | multipart parts failure => exact pushesOnly_pushParts copies size failure 0 0 parts

end Files

theorem kind_of_mem_send {encoder : Sending β} (pushes : PushesOnly kind encoder)
    (room : Option Nat) {m : Envelope} (member : m ∈ (send room encoder).2) : kind m := by
  have onlyKind := pushes { room } fun m none => absurd none List.not_mem_nil
  unfold send at member
  rcases encoded : encoder { room } with ⟨result, box⟩
  rw [encoded] at onlyKind member
  exact onlyKind m (List.mem_reverse.mp member)

end Upload

namespace Forwarder

variable {allowed : Nat → Envelope → Prop} {start : Stage σ} (f : Forwarder α σ)
  {template : Envelope}

theorem sendsFirst_stream (channel : Nat) (source : Upload.Source)
    (copies : ∀ moment key value, allowed moment (Upload.message template key value)) :
    SendsFirst allowed channel start (f.stream channel template source) := by
  unfold stream
  refine .after_change (fun _ => rfl) rfl rfl ?_
  refine .after_change (fun _ => rfl) rfl rfl ?_
  dsimp only
  refine (SendsFirst.transmit fun m member => ?_).bind fun _ _ => ?_
  · exact Upload.kind_of_mem_send (Upload.pushesOnly_pushSource (copies start.1) _ _) _ member
  · split
    · exact .pure trivial
    · refine (Does.awaitDelayed _).bind fun _ ending _ _ => ?_
      cases ending with
      | refused status => exact (Does.observe channel status).bind fun _ _ _ _ => .pure trivial
      | broken status => exact (Does.observe channel status).bind fun _ _ _ _ => .pure trivial
      | finished replies => exact (Does.record _).bind fun _ _ _ _ => .pure trivial

theorem does_upload (context : CallContext) (service : String) (source : Upload.Source)
    (asks : ∀ moment name service,
      allowed moment (f.gate.stamp (f.clock moment) (Coordinator.lookupRequest name service)))
    (copies : ∀ moment key value, allowed moment (Upload.message template key value)) :
    Does allowed start (fun _ => True) (f.upload context service template source) :=
  does_overConnection f asks context service fun _ channel =>
    (sendsFirst_stream f channel source copies).does

end Forwarder

end Gatehouse
