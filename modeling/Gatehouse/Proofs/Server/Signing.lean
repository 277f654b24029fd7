import Gatehouse.Proofs.Forward.Resigned
import Gatehouse.Proofs.Forward.Sends
import Gatehouse.Proofs.Security.Acceptance
import Gatehouse.Proofs.Server.Presented

/-!
The signs of what is sent while a request is served.

The gateway stamps a message once and changes it afterwards: it gives it arguments, a session, an
inner call and a method, and copies it for every part of an upload. None of that touches the module
or the sign, so the sign stays the gate's for the module that the message names, at a time of day
that was read in the course of the request.

`Exchange.Stamps` says so of an exchange, whatever comes back, and `Forwarder.does_run` carries
it over to what is sent over connections. The questions to the coordinator that come in between are
stamped on their own. Signs that backends send back are ignored throughout, and so is what the
client has presented, once the gate has seen it.
-/

namespace Gatehouse

/-- A message carries the gate's sign for its own module, at one of some times of day. -/
def Gate.Signed (gate : Gate) (times : Int → Prop) (m : Envelope) : Prop :=
  ∃ time, times time ∧ m.sign = gate.signFor (m.module.getD "") time

theorem Gate.signed_stamp (gate : Gate) {times : Int → Prop} {now : Int} (isTime : times now)
    (m : Envelope) : gate.Signed times (gate.stamp now m) :=
  ⟨now, isTime, rfl⟩

/-- Other fields do not matter. -/
theorem Gate.Signed.congr {gate : Gate} {times : Int → Prop} {m other : Envelope}
    (signed : gate.Signed times m) (sameSign : other.sign = m.sign)
    (sameModule : other.module = m.module) : gate.Signed times other := by
  obtain ⟨time, isTime, isSign⟩ := signed
  refine ⟨time, isTime, ?_⟩
  rw [sameSign, sameModule, isSign]

theorem Gate.Signed.mono {gate : Gate} {times more : Int → Prop} {m : Envelope}
    (signed : gate.Signed times m) (subset : ∀ time, times time → more time) :
    gate.Signed more m := by
  obtain ⟨time, isTime, isSign⟩ := signed
  exact ⟨time, subset time isTime, isSign⟩

namespace Exchange

variable {α β : Type}

/-- Whatever comes back, an exchange sends only what carries the gate's sign for a time of day that
was read before, takes no notice of the sign on a request that is sent back, and ends with a value
for which `after` holds. -/
def Stamps (gate : Gate) (after : List Int → α → Prop) : (readings : List Int) → Exchange α → Prop
  | readings, done value => after readings value
  | readings, .clock next => ∀ now, (next now).Stamps gate after (readings ++ [now])
  | readings, call _ _ _ request next =>
    gate.Signed (· ∈ readings) request ∧
      (∀ forge result, next (result.map (Reply.resigned forge)) = next result) ∧
      ∀ result, (next result).Stamps gate after readings
  | readings, upload _ _ template _ next =>
    gate.Signed (· ∈ readings) template ∧ ∀ result, (next result).Stamps gate after readings

namespace Stamps

variable {gate : Gate} {readings : List Int} {after : List Int → β → Prop}

theorem bind (between : List Int → α → Prop) {exchange : Exchange α} {next : α → Exchange β}
    (first : exchange.Stamps gate between readings)
    (rest : ∀ readings value, between readings value → (next value).Stamps gate after readings) :
    (exchange >>= next).Stamps gate after readings := by
  change (exchange.bind next).Stamps gate after readings
  induction exchange generalizing readings with
  | done value => exact rest readings value first
  | clock next' ih => exact fun now => ih now (first now)
  | call context service method request next' ih =>
    obtain ⟨signed, blind, answered⟩ := first
    refine ⟨signed, fun forge result => ?_, fun result => ih result (answered result)⟩
    exact congrArg (fun step => step.bind next) (blind forge result)
  | upload context service template source next' ih =>
    exact ⟨first.1, fun result => ih result (first.2 result)⟩

theorem timeOfDay_bind {next : Int → Exchange β}
    (rest : ∀ now, (next now).Stamps gate after (readings ++ [now])) :
    (timeOfDay >>= next).Stamps gate after readings :=
  rest

theorem dispatch_bind {context : CallContext} {service method : String} {request : Envelope}
    {next : Except Fault (Reply × Envelope) → Exchange β}
    (signed : gate.Signed (· ∈ readings) request)
    (blind : ∀ reply other envelope, reply.data = other.data →
      next (.ok (reply, envelope)) = next (.ok (other, envelope)))
    (rest : ∀ result : Except Fault Reply,
      (next (result.map fun reply => (reply, Session.echoReply request reply))).Stamps
        gate after readings) :
    (dispatch context service method request >>= next).Stamps gate after readings := by
  refine ⟨signed, fun forge result => ?_, rest⟩
  cases result with
  | error fault => rfl
  | ok reply =>
    change next (.ok (reply.resigned forge, Session.echoReply request (reply.resigned forge))) =
      next (.ok (reply, Session.echoReply request reply))
    rw [Session.echoReply_resigned]
    exact blind _ _ _ rfl

theorem send_bind {context : CallContext} {service : String} {template : Envelope}
    {source : Upload.Source} {next : Except Fault Upload.Summary → Exchange β}
    (signed : gate.Signed (· ∈ readings) template)
    (rest : ∀ result, (next result).Stamps gate after readings) :
    (send context service template source >>= next).Stamps gate after readings :=
  ⟨signed, rest⟩

end Stamps

end Exchange

/-! ## The handler -/

namespace Session

/-- A session leaves the sign and the module of an envelope alone. -/
theorem sign_attach (envelope : Envelope) (answer : Except Fault (Reply × Envelope)) :
    (attach envelope answer).sign = envelope.sign ∧
      (attach envelope answer).module = envelope.module := by
  unfold attach
  cases answer with
  | error fault => exact ⟨rfl, rfl⟩
  | ok both =>
    dsimp only
    cases Entries.get? "httpcode" (membersOfArgs both.1.data) with
    | some code => exact ⟨rfl, rfl⟩
    | none => exact ⟨rfl, rfl⟩

end Session

namespace Front

open Exchange

variable (front : Front) {readings : List Int} (context : CallContext)

theorem stamps_render (envelope : Envelope) (data : Answer.Data) :
    (render envelope data).Stamps front.gate (fun _ _ => True) readings :=
  fun _ => trivial

theorem stamps_heartbeat (envelope : Envelope) (args : Dict Any) :
    (front.heartbeat context envelope args).Stamps front.gate (fun _ _ => True) readings := by
  unfold heartbeat
  refine Stamps.bind (fun _ _ => True) ?_ fun readings data _ => ?_
  · unfold heartbeatData
    cases front.heartbeatTarget with
    | none => exact fun _ => trivial
    | some coordinator =>
      refine Stamps.timeOfDay_bind fun now => ?_
      refine Stamps.dispatch_bind (Gate.signed_stamp front.gate ?_ _) ?_ fun _ => trivial
      · exact List.mem_append_right _ List.mem_cons_self
      · intro reply other asked same
        simp only [Heartbeat.acknowledged, same]
  · cases data with
    | error fault => trivial
    | ok data => exact Stamps.bind _ (stamps_render front envelope data) fun _ _ _ => trivial

variable {envelope : Envelope}

/-- The session step sends a signed envelope on, and leaves one. -/
theorem stamps_withSession (signed : front.gate.Signed (· ∈ readings) envelope) :
    (front.withSession context envelope).Stamps front.gate
      (fun after left => front.gate.Signed (· ∈ after) left) readings := by
  unfold withSession
  split
  · refine Stamps.dispatch_bind (signed.congr rfl rfl) ?_ fun result => ?_
    · intro reply other asked same
      simp only [Session.attach, same]
    · obtain ⟨sameSign, sameModule⟩ := Session.sign_attach envelope
        (result.map fun reply => (reply, Session.echoReply (Session.checkRequest envelope) reply))
      exact signed.congr sameSign sameModule
  · exact signed

theorem stamps_forwardUpload (module : String) (inbound : Inbound)
    (signed : front.gate.Signed (· ∈ readings) envelope) :
    (front.forwardUpload context module envelope inbound).Stamps front.gate
      (fun _ _ => True) readings := by
  unfold forwardUpload
  cases front.uploadSource inbound with
  | error fault => trivial
  | ok source =>
    refine Stamps.send_bind signed fun result => ?_
    cases result with
    | error fault => trivial
    | ok summary =>
      exact Stamps.bind _ (stamps_render front envelope _) fun _ _ _ => trivial

theorem stamps_forwardCall (module method : String)
    (signed : front.gate.Signed (· ∈ readings) envelope) :
    (front.forwardCall context module method envelope).Stamps front.gate
      (fun _ _ => True) readings := by
  unfold forwardCall
  refine Stamps.dispatch_bind signed ?_ fun result => ?_
  · intro reply other left same
    simp only [same]
  · cases result with
    | error fault => trivial
    | ok reply => exact Stamps.timeOfDay_bind fun _ => trivial

theorem stamps_serve (path : ApiPath) (inbound : Inbound)
    (signed : front.gate.Signed (· ∈ readings) envelope) :
    (front.serve context path envelope inbound).Stamps front.gate (fun _ _ => True) readings := by
  unfold serve
  refine Stamps.bind _ (stamps_withSession front context signed) fun readings left signed => ?_
  split
  · trivial
  · split
    · exact Stamps.bind _ (stamps_render front left _) fun _ _ _ => trivial
    · split
      · exact stamps_forwardUpload front context path.module inbound signed
      · exact stamps_forwardCall front context path.module inbound.head.method signed

theorem stamps_admitted (path : ApiPath) (inbound : Inbound) :
    (front.admitted context path inbound).Stamps front.gate (fun _ _ => True) readings := by
  unfold admitted
  refine Stamps.timeOfDay_bind fun now => ?_
  dsimp only
  cases front.arguments inbound with
  | error fault => trivial
  | ok args =>
    dsimp only
    split
    · exact stamps_heartbeat front context _ args
    · refine stamps_serve front context path inbound ?_
      have isRead : now ∈ readings ++ [now] := List.mem_append_right _ List.mem_cons_self
      exact (Gate.signed_stamp front.gate isRead (inbound.head.envelope path)).congr rfl rfl

theorem stamps_handle (deadline : Nat) (path : ApiPath) (inbound : Inbound) :
    (front.handle deadline path inbound).Stamps front.gate (fun _ _ => True) readings := by
  unfold handle
  dsimp only
  split
  · trivial
  · split
    · trivial
    · refine Stamps.timeOfDay_bind fun now => ?_
      cases front.authorize path inbound now with
      | error fault => trivial
      | ok _ =>
        dsimp only
        split
        · trivial
        · exact stamps_admitted front _ path inbound

theorem stamps_api (now : Nat) (inbound : Inbound) :
    (front.api now inbound).Stamps front.gate (fun _ _ => True) readings := by
  unfold api
  dsimp only
  cases ApiPath.parse? inbound.head.uri.path with
  | none => trivial
  | some path =>
    exact Stamps.bind _ (stamps_handle front _ path inbound) fun _ _ _ => trivial

end Front

/-! ## Over connections -/

namespace Forwarder

open Exchange

variable {α β σ : Type} (f : Forwarder α σ)

/-- A message that is sent at a moment carries the gate's sign for its module, at a time of day that
was read between `since` and then. -/
def SignedSince (since moment : Nat) (m : Envelope) : Prop :=
  f.gate.Signed (fun time => ∃ read, since ≤ read ∧ read ≤ moment ∧ f.clock read = time) m

/-- Times of day that were read between `since` and `now`. -/
def ReadBetween (since now : Nat) (readings : List Int) : Prop :=
  ∀ time ∈ readings, ∃ read, since ≤ read ∧ read ≤ now ∧ f.clock read = time

variable {f} in
theorem ReadBetween.mono {readings : List Int} {since now later : Nat}
    (between : f.ReadBetween since now readings) (after : now ≤ later) :
    f.ReadBetween since later readings := by
  intro time member
  obtain ⟨read, lower, upper, isTime⟩ := between time member
  exact ⟨read, lower, Nat.le_trans upper after, isTime⟩

variable {f} in
theorem ReadBetween.signedSince {readings : List Int} {since now later : Nat} {m : Envelope}
    (between : f.ReadBetween since now readings) (signed : f.gate.Signed (· ∈ readings) m)
    (after : now ≤ later) : f.SignedSince since later m :=
  signed.mono (between.mono after)

theorem signedSince_stamp {since later : Nat} (after : since ≤ later) (m : Envelope) :
    f.SignedSince since later (f.gate.stamp (f.clock later) m) :=
  Gate.signed_stamp f.gate ⟨later, after, Nat.le_refl _, rfl⟩ m

variable [Quantity α]

/-- An exchange that stamps what it sends, carried out over connections, sends nothing unsigned. -/
theorem does_run {after : List Int → β → Prop} {readings : List Int} {exchange : Exchange β}
    (stamps : exchange.Stamps f.gate after readings) {since : Nat} {start : Stage σ}
    (began : since ≤ start.1) (between : f.ReadBetween since start.1 readings) :
    Does (f.SignedSince since) start (fun _ => True) (exchange.run f.backend f.clock) := by
  induction exchange generalizing readings start with
  | done value => exact .pure trivial
  | clock next ih =>
    refine .now_bind (ih (f.clock start.1) (stamps (f.clock start.1)) began fun time member => ?_)
    rcases List.mem_append.mp member with old | new
    · exact between time old
    · exact ⟨start.1, began, Nat.le_refl _, (List.mem_singleton.mp new).symm⟩
  | call context service method request next ih =>
    obtain ⟨signed, -, rest⟩ := stamps
    have called : Does (f.SignedSince since) start (fun _ => True)
        (f.call context service method request) := by
      refine .of_later (f.does_call context service method ?_ fun moment later => ?_)
      · exact fun moment name service later =>
          signedSince_stamp f (Nat.le_trans began later) (Coordinator.lookupRequest name service)
      · exact (between.signedSince signed later).congr rfl rfl
    refine called.bind fun stage result acts _ => ?_
    have later := Acts.order acts
    exact ih result (rest result) (Nat.le_trans began later) (between.mono later)
  | upload context service template source next ih =>
    obtain ⟨signed, rest⟩ := stamps
    have uploaded : Does (f.SignedSince since) start (fun _ => True)
        (f.upload context service template source) := by
      refine .of_later (f.does_upload context service source ?_ fun moment key value later => ?_)
      · exact fun moment name service later =>
          signedSince_stamp f (Nat.le_trans began later) (Coordinator.lookupRequest name service)
      · exact (between.signedSince signed later).congr rfl rfl
    refine uploaded.bind fun stage result acts _ => ?_
    have later := Acts.order acts
    exact ih result (rest result) (Nat.le_trans began later) (between.mono later)

/-- Nor does anything that it does depend on the signs that backends send back. -/
theorem run_resigned (forge : Envelope → Option String) {gate : Gate} {after : List Int → β → Prop}
    {readings : List Int} {exchange : Exchange β} (stamps : exchange.Stamps gate after readings)
    (clock : Nat → Int) :
    exchange.run (f.resigned forge).backend clock = exchange.run f.backend clock := by
  induction exchange generalizing readings with
  | done value => simp only [run]
  | clock next ih =>
    change Timed.now >>= _ = Timed.now >>= _
    exact bind_congr fun now => ih (clock now) (stamps (clock now))
  | call context service method request next ih =>
    obtain ⟨-, blind, rest⟩ := stamps
    change (f.resigned forge).call context service method request >>= _ =
      f.call context service method request >>= _
    rw [call_resigned, bind_map_left]
    refine bind_congr fun result => ?_
    rw [blind forge result]
    exact ih result (rest result)
  | upload context service template source next ih =>
    obtain ⟨-, rest⟩ := stamps
    change (f.resigned forge).upload context service template source >>= _ =
      f.upload context service template source >>= _
    rw [upload_resigned]
    exact bind_congr fun result => ih result (rest result)

end Forwarder

/-! ## The server -/

namespace Server

open Exchange

variable {α β σ : Type}

theorem stamps_dispatch (server : Server β) (now : Nat) (inbound : Inbound) :
    (server.dispatch now inbound).Stamps server.front.gate (fun _ _ => True) [] := by
  unfold dispatch
  split
  · exact server.front.stamps_api now inbound
  · trivial
  · trivial

variable [Quantity α] [Quantity β]

theorem stamps_accept (server : Server β) (now : Nat) (inbound : Inbound) :
    (server.accept now inbound).1.Stamps server.front.gate (fun _ _ => True) [] := by
  unfold accept
  cases inbound.limited? server.front.upload.maxBodyBytes with
  | none => trivial
  | some limited =>
    have sameFront := front_withinRate server limited.head now
    dsimp only
    rcases passed : server.withinRate limited.head now with ⟨passes, server⟩
    rw [passed] at sameFront
    cases passes with
    | true =>
      rw [← sameFront]
      exact stamps_dispatch server now limited
    | false => trivial

/-- What is sent while a request is served carries the gate's sign for the module it names, at a
time of day that was read between the arrival of the request and the moment of sending. -/
theorem signed_serve (server : Server β) (f : Forwarder α σ)
    (sameGate : server.front.gate = f.gate) (newId : String) (now : Nat) (client : Client σ)
    (inbound : Inbound) :
    ∃ new, (server.serve f.backend f.clock newId now client inbound).state.sent =
        client.sent ++ new ∧
      ∀ t ∈ new, ∀ m ∈ t.messages, f.SignedSince now t.moment m := by
  simp only [serve]
  split
  · refine ⟨[], (List.append_nil _).symm, ?_⟩
    intro t member
    exact absurd member List.not_mem_nil
  · have stamps := stamps_accept server now (named newId inbound)
    rw [sameGate] at stamps
    have unread : f.ReadBetween now now [] := fun time member => absurd member List.not_mem_nil
    rcases accepted : server.accept now (named newId inbound) with ⟨exchange, after⟩
    rw [accepted] at stamps
    have does : Does (f.SignedSince now) (now, client) (fun _ => True)
        (exchange.run f.backend f.clock) :=
      f.does_run stamps (Nat.le_refl now) unread
    obtain ⟨_, acts, -⟩ := does (some (now + server.front.requestTimeout - 1))
    obtain ⟨new, sent, during⟩ := Acts.sent acts
    refine ⟨new, ?_, fun t member => (during t member).2.2⟩
    rw [← sent]
    dsimp only
    rcases exchange.run f.backend f.clock (some (now + server.front.requestTimeout - 1)) now
      client with ⟨_ | ⟨ended, response, events⟩, left⟩ <;> rfl

/-- Other signs on the requests that backends send back make no difference to anything. -/
theorem serve_resigned (server : Server β) (f : Forwarder α σ) (forge : Envelope → Option String)
    (newId : String) (now : Nat) (client : Client σ) (inbound : Inbound) :
    server.serve (f.resigned forge).backend f.clock newId now client inbound =
      server.serve f.backend f.clock newId now client inbound := by
  simp only [serve]
  split
  · rfl
  · have same := f.run_resigned forge (stamps_accept server now (named newId inbound)) f.clock
    rcases accepted : server.accept now (named newId inbound) with ⟨exchange, after⟩
    rw [accepted] at same
    dsimp only at same ⊢
    rw [same]

/-- Every message that a gateway sends while it serves a request, whatever backends reply, carries a
sign that its own gate lets pass for the module in that message: a question to the coordinator, a
heartbeat, a question about a session, every attempt of a call, and every part of an upload. A gate
of signatures lets it pass at all times up to the maximal age away from a moment between the arrival
of the request and the sending of the message. A gate of certificates sends no sign.

What a client presents has no part in that. Given the same verdict of the gate, a request with
anything else presented is served alike, and so is one with other signs on the requests that
backends send back. -/
theorem outbound_signs (server : Server β) (f : Forwarder α σ) (clock : Nat → Int64)
    (newId : String) (now : Nat) (client : Client σ) (inbound : Inbound) :
    let gate := server.front.gate
    let forwarder : Forwarder α σ := { f with gate, clock := fun moment => (clock moment).toInt }
    let served := server.serve forwarder.backend forwarder.clock newId now client inbound
    (∃ new, served.state.sent = client.sent ++ new ∧ ∀ t ∈ new, ∀ m ∈ t.messages,
      ∃ stamped, now ≤ stamped ∧ stamped ≤ t.moment ∧
        (∀ sign, gate = .staticSign sign → sign ≠ "" →
          ∀ time, gate.authorize (m.module.getD "") m.sign none time = .ok ()) ∧
        (∀ secret maxAge, gate = .hmac secret maxAge → secret ≠ "" →
          maxAge < 0x7FFFFFFFFFFFFFFF →
          ∀ time : Int, (time - (clock stamped).toInt).natAbs ≤ maxAge →
            gate.authorize (m.module.getD "") m.sign none time = .ok ()) ∧
        (gate = .mutualTls → m.sign = none)) ∧
    (∀ other, inbound.SameButSign other →
      (∀ path, server.front.authorize path other (clock now).toInt =
        server.front.authorize path inbound (clock now).toInt) →
      server.serve forwarder.backend forwarder.clock newId now client other = served) ∧
    ∀ forge, server.serve (forwarder.resigned forge).backend forwarder.clock newId now client
      inbound = served := by
  intro gate forwarder served
  refine ⟨?_, ?_, ?_⟩
  · obtain ⟨new, sent, signed⟩ := signed_serve server forwarder rfl newId now client inbound
    refine ⟨new, sent, ?_⟩
    intro t isNew m inT
    obtain ⟨_, ⟨stamped, lower, upper, rfl⟩, isSign⟩ := signed t isNew m inT
    have fits : Numeral.fitsInt64 (clock stamped).toInt = true := by
      have lowest := (clock stamped).le_toInt
      have highest := (clock stamped).toInt_lt
      simp only [Numeral.fitsInt64, Bool.and_eq_true, decide_eq_true_eq]
      omega
    refine ⟨stamped, lower, upper, ?_⟩
    rw [isSign]
    exact gate.authorize_signFor (m.module.getD "") fits
  · intro other same verdict
    exact serve_presented server forwarder.backend forwarder.clock newId now client same verdict
  · intro forge
    exact serve_resigned server forwarder forge newId now client inbound

end Server

end Gatehouse
