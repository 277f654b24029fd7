import Gatehouse.Proofs.Server.Messages

/-!
The rights that a request carries when it is sent on.

The user, the flags and the end of a session reach a module by way of the envelope. A client has no
say in them: the envelope starts without any, neither the gate nor the arguments put one there, and
the session step takes them from nothing but the session service's reply. `rights_sendsOn` gives
them as a function of what came of that step, and so two requests with the same outcome carry the
same rights, whatever else is in them.
-/

namespace Gatehouse

open Exchange

/-- What an envelope says about the client's session. -/
structure Rights where
  uid : Option String := none
  isAdmin : Option Int32 := none
  sessionEnd : Option Int32 := none
  completed : Option Int32 := none
  readonly : Option Int32 := none
  deriving DecidableEq, Repr

def Envelope.rights (envelope : Envelope) : Rights :=
  ⟨envelope.uid, envelope.isAdmin, envelope.sessionEnd, envelope.completed, envelope.readonly⟩

/-! ## Sendings -/

namespace Exchange

/-- The events at which something is sent. -/
def sendings (events : List Event) : List Event :=
  events.filter fun event => event.message?.isSome

theorem sendings_append (first rest : List Event) :
    sendings (first ++ rest) = sendings first ++ sendings rest :=
  List.filter_append ..

theorem length_sendings (events : List Event) :
    (sendings events).length = (messages events).length := by
  induction events with
  | nil => rfl
  | cons event rest ih =>
    cases event with
    | clock now => exact ih
    | call context service method request result => exact congrArg (· + 1) ih
    | upload context service template source result => exact congrArg (· + 1) ih

/-- An exchange adds to what has happened before. -/
theorem exists_follow_eq_append {α : Type} (world : World) (past : List Event)
    (exchange : Exchange α) : ∃ more, (exchange.follow world past).1 = past ++ more := by
  induction exchange generalizing past with
  | done value => exact ⟨[], (List.append_nil past).symm⟩
  | clock next ih =>
    obtain ⟨more, added⟩ := ih (world.timeOfDay past) (past ++ [.clock (world.timeOfDay past)])
    exact ⟨_, added.trans (List.append_assoc _ _ _)⟩
  | call context service method request next ih =>
    simp only [follow]
    cases world.call past context service method request with
    | none => exact ⟨_, rfl⟩
    | some result =>
      obtain ⟨more, added⟩ := ih result
        (past ++ [.call context service method request (some result)])
      exact ⟨_, added.trans (List.append_assoc _ _ _)⟩
  | upload context service template source next ih =>
    simp only [follow]
    cases world.upload past context service template source with
    | none => exact ⟨_, rfl⟩
    | some result =>
      obtain ⟨more, added⟩ := ih result
        (past ++ [.upload context service template source (some result)])
      exact ⟨_, added.trans (List.append_assoc _ _ _)⟩

end Exchange

namespace Session

/-! ## What comes of the session step -/

/-- What came of the session step of a request. -/
inductive Outcome where
  /-- Nobody was asked. -/
  | skipped
  /-- There was no reply. -/
  | failed
  /-- The reply told the gateway not to go by it. -/
  | refused
  /-- The reply held this data, and the request as the session service left it. -/
  | answered (data : Dict Any) (back : Option Envelope)
  deriving DecidableEq

namespace Outcome

/-- The outcome of a question that was answered like this. -/
def ofResult : Except Fault Reply → Outcome
  | .error _ => failed
  | .ok reply =>
    match Entries.get? "httpcode" (membersOfArgs reply.data) with
    | some _ => refused
    | none => answered reply.data reply.back

/-- The outcome of a history at whose end a request is sent on: whatever is sent before that is the
question to the session service. -/
def ofHistory (events : List Event) : Outcome :=
  match sendings events with
  | .call _ _ _ _ (some result) :: _ :: _ => ofResult result
  | _ => skipped

theorem ofHistory_of_single {events : List Event} (single : (messages events).length ≤ 1) :
    ofHistory events = skipped := by
  rw [← length_sendings] at single
  unfold ofHistory
  split
  · rename_i sent
    rw [sent] at single
    exact absurd single (by simp only [List.length_cons]; omega)
  · rfl

theorem ofHistory_of_asked {past more : List Event} {context : CallContext}
    {service method : String} {request : Envelope} {result : Except Fault Reply}
    (first : messages past = []) (later : messages more ≠ []) :
    ofHistory (past ++ [.call context service method request (some result)] ++ more) =
      ofResult result := by
  have none : sendings past = [] := by
    rw [← List.length_eq_zero_iff, length_sendings, first, List.length_nil]
  obtain ⟨event, rest, some⟩ : ∃ event rest, sendings more = event :: rest := by
    cases sent : sendings more with
    | nil =>
      rw [← List.length_eq_zero_iff, length_sendings, List.length_eq_zero_iff] at sent
      exact absurd sent later
    | cons event rest => exact ⟨event, rest, rfl⟩
  unfold ofHistory
  rw [sendings_append, sendings_append, none, some]
  rfl

/-- There is no session to take over. -/
def IsEmpty (outcome : Outcome) : Prop :=
  outcome = skipped ∨ outcome = failed ∨ outcome = refused

/-- The rights that a session service hands out: those in its data, and else those on the envelope
that it sends back. -/
def rights : Outcome → Rights
  | answered data back =>
    (apply (echoReply {} ⟨data, back⟩) (membersOfArgs data)).rights
  | _ => {}

theorem IsEmpty.rights {outcome : Outcome} (empty : outcome.IsEmpty) : outcome.rights = {} := by
  rcases empty with rfl | rfl | rfl <;> rfl

end Outcome

/-- An envelope without rights comes out of the session step with those of the reply. -/
theorem rights_attach {envelope : Envelope} (bare : envelope.rights = {})
    (result : Except Fault Reply) :
    (attach envelope (result.map fun reply =>
      (reply, echoReply (checkRequest envelope) reply))).rights =
      (Outcome.ofResult result).rights := by
  obtain ⟨uid, isAdmin, sessionEnd, completed, readonly⟩ := Rights.mk.inj bare
  cases result with
  | error fault => exact bare
  | ok reply =>
    simp only [attach, Except.map, Outcome.ofResult]
    cases Entries.get? "httpcode" (membersOfArgs reply.data) with
    | some code => exact bare
    | none =>
      cases back : reply.back <;>
        simp only [Outcome.rights, Envelope.rights, apply, echo, echoReply, checkRequest, back, uid,
          isAdmin, sessionEnd, completed, readonly, Option.orElse_eq_orElse,
          Option.orElse_eq_or, Option.or_none]

end Session

namespace Front

variable (front : Front) (world : World) (past : List Event) (context : CallContext)

/-- What the session step adds to the history, and the envelope that it leaves. -/
theorem follow_withSession {envelope after : Envelope} {events : List Event}
    (session : (front.withSession context envelope).follow world past = (events, some after)) :
    events = past ∧ after = envelope ∨
      ∃ service request result,
        events = past ++ [.call context service "GET" request (some result)] ∧
        after = Session.attach envelope (result.map fun reply =>
          (reply, Session.echoReply (Session.checkRequest envelope) reply)) := by
  unfold withSession at session
  split at session
  · right
    simp only [Session.check, follow_bind, follow_dispatch] at session
    cases answer : world.call past context front.session.service "GET"
        (Session.checkRequest envelope) with
    | none =>
      rw [answer] at session
      cases session
    | some result =>
      rw [answer] at session
      cases session
      exact ⟨_, _, result, rfl, rfl⟩
  · cases session
    exact Or.inl ⟨rfl, rfl⟩

theorem Forwards.eq_of_call {path : ApiPath} {service method verb : String}
    {envelope request : Envelope} {other : CallContext}
    (forwards : Forwards context path method envelope (.call other service verb request)) :
    envelope = request := by
  generalize sent : Message.call other service verb request = message at forwards
  cases forwards with
  | call => exact (Message.call.inj sent).2.2.2.symm
  | upload source => cases sent

/-- What a request carries that is sent on by an exchange, and what came of its session step. -/
theorem rights_serve {path : ApiPath} {envelope sent : Envelope} {inbound : Inbound}
    {forward : Message} (bare : envelope.rights = {}) (first : messages past = [])
    (forwards : Forwards context path inbound.head.method sent forward)
    (last : (messages ((front.serve context path envelope inbound).follow world past).1).getLast? =
      some forward) :
    sent.rights = (Session.Outcome.ofHistory
      ((front.serve context path envelope inbound).follow world past).1).rights := by
  obtain ⟨tail, all, next⟩ := messages_serve_all front world past context path envelope inbound
  rw [first, List.nil_append] at all
  rcases next with rfl | ⟨events, after, other, rfl, -, session, -, sentOn⟩
  · -- the last message is the question to the session service, in an envelope without rights
    rw [List.append_nil] at all
    rw [all] at last
    rcases sessionMessages_cases front context envelope with none | ⟨-, -, asks⟩
    · rw [none] at last
      cases last
    · rw [asks] at last all
      cases last
      rw [Session.Outcome.ofHistory_of_single (by rw [all]; exact Nat.le_refl 1)]
      rw [forwards.eq_of_call]
      exact bare
  · rw [all, List.getLast?_concat] at last
    cases last
    have same : sent = after := by
      cases forwards with
      | call => cases sentOn; rfl
      | upload source => cases sentOn; rfl
    have history : ∃ more,
        ((front.serve context path envelope inbound).follow world past).1 = events ++ more := by
      simp only [serve, follow_bind, session]
      exact exists_follow_eq_append world events _
    obtain ⟨more, history⟩ := history
    have asked := messages_withSession front world past context envelope
    rw [session, first, List.nil_append] at asked
    rw [history, messages_append, asked] at all
    have later : messages more = [forward] := List.append_cancel_left all
    rw [same, history]
    rcases follow_withSession front world past context session with ⟨rfl, rfl⟩ |
      ⟨service, request, result, rfl, rfl⟩
    · rw [Session.Outcome.ofHistory_of_single]
      · exact bare
      · rw [messages_append, first, later]
        exact Nat.le_refl 1
    · rw [Session.Outcome.ofHistory_of_asked first (by rw [later]; exact List.cons_ne_nil _ _)]
      exact Session.rights_attach bare result

/-! ## API requests -/

/-- All that happens while an API request is served that begins at `now`. -/
def history (now : Nat) (inbound : Inbound) : List Event :=
  ((front.api now inbound).follow world []).1

/-- An API request is sent on in an envelope: the last message for it is a call or an upload to the
module that its path names. -/
def SendsOn (now : Nat) (inbound : Inbound) (envelope : Envelope) : Prop :=
  ∃ path forward, ApiPath.parse? inbound.head.uri.path = some path ∧ path.isHeartbeat = false ∧
    Forwards (front.callContext now inbound) path inbound.head.method envelope forward ∧
    (front.sent world now inbound).getLast? = some forward

/-- What came of the session step of an API request. -/
def sessionOutcome (now : Nat) (inbound : Inbound) : Session.Outcome :=
  .ofHistory (front.history world now inbound)

variable {front world}

theorem history_eq_handle {now : Nat} {inbound : Inbound} {path : ApiPath}
    (parsed : ApiPath.parse? inbound.head.uri.path = some path) :
    front.history world now inbound =
      ((front.handle (now + front.requestTimeout) path inbound).follow world []).1 := by
  simp only [history, api, parsed, follow_bind]
  rcases (front.handle (now + front.requestTimeout) path inbound).follow world [] with
    ⟨events, _ | result⟩ <;> rfl

/-- What an API request carries when it is sent on are the rights in the session service's reply. -/
theorem rights_sendsOn {now : Nat} {inbound : Inbound} {envelope : Envelope}
    (sends : front.SendsOn world now inbound envelope) :
    envelope.rights = (front.sessionOutcome world now inbound).rights := by
  obtain ⟨path, forward, parsed, other, forwards, last⟩ := sends
  have some : front.sent world now inbound ≠ [] := by
    intro none
    rw [none] at last
    cases last
  obtain ⟨supported, known, unreserved, authorized⟩ := gate_of_sent parsed some
  have admits : front.history world now inbound =
      ((front.admitted (front.callContext now inbound) path inbound).follow world
        [.clock (world.timeOfDay [])]).1 := by
    rw [history_eq_handle parsed, follow_handle_admitted known supported authorized unreserved]
    rfl
  change (messages (front.history world now inbound)).getLast? = _ at last
  cases read : front.arguments inbound with
  | error fault =>
    rw [admits, messages_admitted_unread _ read] at last
    cases last
  | ok args =>
    rw [follow_admitted _ read] at admits
    simp only [other, Bool.false_eq_true, if_false] at admits
    rw [admits] at last
    rw [sessionOutcome, admits]
    exact rights_serve front world _ _ rfl rfl forwards last

/-- Clients cannot make up a session.

Any two requests that are sent on carry the same rights if the same came of their session step,
whatever their methods, headers, queries and bodies are, and whenever and among whatever backends
they are served. If nobody was asked about the session, or there was no reply, or the reply was a
refusal, they carry none at all. -/
theorem rights_of_outcome (front : Front) {world other : World} {now later : Nat}
    {first second : Inbound} {firstSent secondSent : Envelope}
    (sendsFirst : front.SendsOn world now first firstSent)
    (sendsSecond : front.SendsOn other later second secondSent) :
    (front.sessionOutcome world now first = front.sessionOutcome other later second →
      firstSent.uid = secondSent.uid ∧ firstSent.isAdmin = secondSent.isAdmin ∧
      firstSent.sessionEnd = secondSent.sessionEnd ∧
      firstSent.completed = secondSent.completed ∧ firstSent.readonly = secondSent.readonly) ∧
    ((front.sessionOutcome world now first).IsEmpty →
      firstSent.uid = none ∧ firstSent.isAdmin = none ∧ firstSent.sessionEnd = none ∧
      firstSent.completed = none ∧ firstSent.readonly = none) := by
  have ofFirst := rights_sendsOn sendsFirst
  refine ⟨?_, ?_⟩
  · intro same
    rw [same, ← rights_sendsOn sendsSecond] at ofFirst
    exact Rights.mk.inj ofFirst
  · intro empty
    rw [empty.rights] at ofFirst
    exact Rights.mk.inj ofFirst

/-- A call that claims to be an administrator's, and an upload by the same user. -/
theorem rights_of_outcome_claimed :
    let reply : Reply :=
      ⟨Dict.insert ∅ "uid" (Any.ofJson (.str "7")), some { uid := some "6", readonly := some 0 }⟩
    let world : World :=
      ⟨fun _ => 0, fun _ _ service _ _ => if service = "session" then some (.ok reply) else none,
        fun _ _ _ _ _ => none⟩
    let front : Front :=
      { gate := .staticSign "s", session := { enabled := true, service := "session" },
        requestTimeout := 1, files := fun _ => .error .notFound }
    let headers : Headers := [("x-sign", utf8 "s"), ("authorization", utf8 "Bearer t")]
    let call : Inbound :=
      { head := { method := "POST", uri := ⟨"/api/v1/reports", some "readonly=0"⟩, headers }
        body := [.data (utf8 "\x7b\"uid\":\"root\",\"isadmin\":true\x7d")] }
    let upload : Inbound :=
      { head := { method := "PUT", uri := ⟨"/api/v1/files", none⟩, headers }, body := [] }
    ∃ called uploaded, front.SendsOn world 0 call called ∧ front.SendsOn world 0 upload uploaded ∧
      front.sessionOutcome world 0 call = front.sessionOutcome world 0 upload ∧
      called.uid = some "7" ∧ called.uid = uploaded.uid ∧ called.isAdmin = uploaded.isAdmin := by
  intro reply world front headers call upload
  let started : Envelope :=
    { module := "reports", path := "/api/v1/reports", method := "POST", ip := "unknown",
      apiVersion := "v1", tokenType := "Bearer", token := "t", sign := "s", uid := "7",
      readonly := some 0 }
  have first : front.SendsOn world 0 call { started with
      args := argsOfMembers [("isadmin", .bool true), ("uid", .str "root")] } :=
    ⟨⟨"v1", "reports", none, none⟩, _, by decide, by decide, .call, by decide +kernel⟩
  have second : front.SendsOn world 0 upload { started with
      module := "files", path := "/api/v1/files", method := "PUT" } :=
    ⟨⟨"v1", "files", none, none⟩, _, by decide, by decide, .upload (.single "upload.bin" []),
      by decide +kernel⟩
  have same : front.sessionOutcome world 0 call = front.sessionOutcome world 0 upload := by
    decide +kernel
  obtain ⟨uid, isAdmin, -⟩ := (rights_of_outcome front first second).1 same
  exact ⟨_, _, first, second, same, rfl, uid, isAdmin⟩

end Front

end Gatehouse
