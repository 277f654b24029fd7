import Gatehouse.Proofs.Exchange.World
import Gatehouse.Server.Handler

/-!
What the handler of API requests sends.

Nothing is sent for a request before it has passed the gate. After that the handler sends a single
heartbeat to the coordinator, or asks the session service once, if there is reason to, and then
sends the request on at most once. Each part of the handler has a lemma on what it adds to the
history in an arbitrary world, and the theorem at the end puts them together.
-/

namespace Gatehouse

open Exchange

namespace Exchange

variable (world : World) (past : List Event) (context : CallContext)

@[simp] theorem follow_dispatch (service method : String) (request : Envelope) :
    (dispatch context service method request).follow world past =
      (past ++ [.call context service method request
          (world.call past context service method request)],
        (world.call past context service method request).map fun result =>
          result.map fun reply => (reply, Session.echoReply request reply)) := by
  simp only [dispatch, follow]
  cases world.call past context service method request <;> rfl

@[simp] theorem follow_send (service : String) (template : Envelope) (source : Upload.Source) :
    (send context service template source).follow world past =
      (past ++ [.upload context service template source
          (world.upload past context service template source)],
        world.upload past context service template source) := by
  simp only [send, follow]
  cases world.upload past context service template source <;> rfl

end Exchange

namespace Front

variable (front : Front) (world : World) (past : List Event) (context : CallContext)

/-- What sends a request on to the module that its path names, in an envelope. -/
inductive Forwards (context : CallContext) (path : ApiPath) (method : String)
    (envelope : Envelope) : Message → Prop
  | call : Forwards context path method envelope (.call context path.module method envelope)
  | upload (source : Upload.Source) :
    Forwards context path method envelope (.upload context path.module envelope source)

/-! ## Parts that send nothing on -/

theorem follow_render (envelope : Envelope) (data : Answer.Data) :
    (render envelope data).follow world past =
      (past ++ [.clock (world.timeOfDay past)],
        some (Answer.render (world.timeOfDay past) envelope data)) := by
  simp only [render, follow_bind, follow_timeOfDay, follow_return]

theorem messages_heartbeatData (args : Dict Any) :
    messages ((front.heartbeatData context args).follow world past).1 = messages past ∨
      ∃ coordinator beat, front.heartbeatTarget = some coordinator ∧
        messages ((front.heartbeatData context args).follow world past).1 =
          messages past ++ [.call context coordinator "POST" beat] := by
  unfold heartbeatData
  cases target : front.heartbeatTarget with
  | none =>
    left
    simp only [follow_bind, follow_timeOfDay, follow_return, messages_append, messages_clock,
      List.append_nil]
  | some coordinator =>
    right
    generalize beat : Heartbeat.beat front.gate coordinator args (world.timeOfDay past) = request
    refine ⟨coordinator, request, rfl, ?_⟩
    simp only [Heartbeat.relay, follow_bind, follow_timeOfDay, follow_dispatch, follow_return, beat]
    generalize world.call _ context coordinator "POST" request = result
    cases result with
    | none => simp only [Option.map_none, messages_append, messages_clock, messages_call,
        List.append_nil]
    | some result => simp only [Option.map_some, messages_append, messages_clock, messages_call,
        List.append_nil]

theorem messages_heartbeat (envelope : Envelope) (args : Dict Any) :
    messages ((front.heartbeat context envelope args).follow world past).1 = messages past ∨
      ∃ coordinator beat, front.heartbeatTarget = some coordinator ∧
        messages ((front.heartbeat context envelope args).follow world past).1 =
          messages past ++ [.call context coordinator "POST" beat] := by
  have same : messages ((front.heartbeat context envelope args).follow world past).1 =
      messages ((front.heartbeatData context args).follow world past).1 := by
    unfold heartbeat
    rw [follow_bind]
    rcases (front.heartbeatData context args).follow world past with
      ⟨events, _ | fault | data⟩
    · rfl
    · rfl
    · simp only [follow_bind, follow_render, follow_return, messages_append, messages_clock,
        List.append_nil]
  rw [same]
  exact messages_heartbeatData front world past context args

/-! ## The session step -/

/-- The session step of an envelope sends what asks about its session, if there is reason to. -/
def sessionMessages (envelope : Envelope) : List Message :=
  if front.session.enabled && envelope.token.isSome then
    [.call context front.session.service "GET" (Session.checkRequest envelope)]
  else []

theorem sessionMessages_cases (envelope : Envelope) :
    front.sessionMessages context envelope = [] ∨
      front.session.enabled = true ∧ envelope.token.isSome = true ∧
        front.sessionMessages context envelope =
          [.call context front.session.service "GET" (Session.checkRequest envelope)] := by
  unfold sessionMessages
  split
  · rename_i asks
    obtain ⟨enabled, token⟩ := Bool.and_eq_true_iff.mp asks
    exact Or.inr ⟨enabled, token, rfl⟩
  · exact Or.inl rfl

theorem messages_withSession (envelope : Envelope) :
    messages ((front.withSession context envelope).follow world past).1 =
      messages past ++ front.sessionMessages context envelope := by
  unfold withSession sessionMessages
  split
  · simp only [Session.check, follow_bind, follow_dispatch, follow_return]
    cases world.call past context front.session.service "GET" (Session.checkRequest envelope) with
    | none => simp only [Option.map_none, messages_append, messages_call]
    | some result => simp only [Option.map_some, messages_append, messages_call]
  · simp only [follow_return, List.append_nil]

/-! ## Sending on -/

theorem messages_forwardUpload (path : ApiPath) (method : String) (envelope : Envelope)
    (inbound : Inbound) :
    messages ((front.forwardUpload context path.module envelope inbound).follow world past).1 =
        messages past ∨
      ∃ forward, Forwards context path method envelope forward ∧
        messages ((front.forwardUpload context path.module envelope inbound).follow world past).1 =
          messages past ++ [forward] := by
  unfold forwardUpload
  cases front.uploadSource inbound with
  | error fault => exact Or.inl rfl
  | ok source =>
    right
    refine ⟨_, .upload source, ?_⟩
    simp only [follow_bind, follow_send]
    rcases world.upload past context path.module envelope source with _ | fault | summary
    · simp only [messages_append, messages_upload]
    · simp only [follow_return, messages_append, messages_upload]
    · simp only [follow_bind, follow_render, follow_return, messages_append, messages_upload,
        messages_clock, List.append_nil]

theorem messages_forwardCall (path : ApiPath) (method : String) (envelope : Envelope) :
    ∃ forward, Forwards context path method envelope forward ∧
      messages ((front.forwardCall context path.module method envelope).follow world past).1 =
        messages past ++ [forward] := by
  refine ⟨_, .call, ?_⟩
  simp only [forwardCall, follow_bind, follow_dispatch]
  rcases world.call past context path.module method envelope with _ | fault | reply
  · simp only [Option.map_none, messages_append, messages_call]
  · simp only [Option.map_some, Except.map, follow_return, messages_append, messages_call]
  · simp only [Option.map_some, Except.map, follow_bind, follow_timeOfDay, follow_return,
      messages_append, messages_call, messages_clock, List.append_nil]

/-- After the session step a read-only session is refused, and nothing is sent. -/
theorem follow_serve_readonly {path : ApiPath} {envelope after : Envelope} {inbound : Inbound}
    {events : List Event}
    (session : (front.withSession context envelope).follow world past = (events, some after))
    (readonly : after.readonly = some 1) :
    (front.serve context path envelope inbound).follow world past =
      (events, some (.error (.forbidden "session is read-only"))) := by
  have refused : isReadOnly after = true := by simp only [isReadOnly, readonly, BEq.rfl]
  simp only [serve, follow_bind, session, refused, if_true, follow_return]

/-- After any other session step the request is sent on at most once, and only if the gateway does
not answer it. -/
theorem messages_serve (path : ApiPath) (inbound : Inbound) {envelope after : Envelope}
    {events : List Event}
    (session : (front.withSession context envelope).follow world past = (events, some after))
    (writable : after.readonly ≠ some 1) :
    messages ((front.serve context path envelope inbound).follow world past).1 = messages events ∨
      ∃ forward, path.isInfo = false ∧ Forwards context path inbound.head.method after forward ∧
        messages ((front.serve context path envelope inbound).follow world past).1 =
          messages events ++ [forward] := by
  have passes : isReadOnly after = false := by
    simp only [isReadOnly, beq_eq_false_iff_ne]
    exact writable
  simp only [serve, follow_bind, session, passes, Bool.false_eq_true, if_false]
  cases info : path.isInfo with
  | true =>
    left
    simp only [if_true, follow_bind, follow_render, follow_return, messages_append,
      messages_clock, List.append_nil]
  | false =>
    simp only [Bool.false_eq_true, if_false]
    split
    · rcases messages_forwardUpload front world events context path inbound.head.method after
        inbound with none | ⟨forward, forwards, sent⟩
      · exact Or.inl none
      · exact Or.inr ⟨forward, trivial, forwards, sent⟩
    · obtain ⟨forward, forwards, sent⟩ :=
        messages_forwardCall front world events context path inbound.head.method after
      exact Or.inr ⟨forward, trivial, forwards, sent⟩

/-- All that serving a request sends: what asks about its session, and then at most the request
itself, in the envelope that the session step leaves. -/
theorem messages_serve_all (path : ApiPath) (envelope : Envelope) (inbound : Inbound) :
    ∃ forwards, messages ((front.serve context path envelope inbound).follow world past).1 =
        messages past ++ front.sessionMessages context envelope ++ forwards ∧
      (forwards = [] ∨ ∃ events after forward, forwards = [forward] ∧ path.isInfo = false ∧
        (front.withSession context envelope).follow world past = (events, some after) ∧
        after.readonly ≠ some 1 ∧ Forwards context path inbound.head.method after forward) := by
  have asked := messages_withSession front world past context envelope
  rcases session : (front.withSession context envelope).follow world past with
    ⟨events, _ | after⟩
  · -- the session service never answers, and the request goes no further
    rw [session] at asked
    refine ⟨[], ?_, Or.inl rfl⟩
    simp only [serve, follow_bind, session, asked, List.append_nil]
  · rw [session] at asked
    rw [← asked]
    by_cases readonly : after.readonly = some 1
    · refine ⟨[], ?_, Or.inl rfl⟩
      rw [follow_serve_readonly front world past context session readonly, List.append_nil]
    · rcases messages_serve front world past context path inbound session readonly with
        none | ⟨forward, asksBackend, forwards, sent⟩
      · exact ⟨[], by rw [none, List.append_nil], Or.inl rfl⟩
      · exact ⟨[forward], sent,
          Or.inr ⟨events, after, forward, rfl, asksBackend, rfl, readonly, forwards⟩⟩

/-! ## The way of a request -/

/-- The session step of a request with these arguments: all that has happened when it is over, and
the envelope after it. The time of day is read twice before, for the gate and for the stamp. -/
def sessionStep (path : ApiPath) (inbound : Inbound) (args : Dict Any) :
    List Event × Option Envelope :=
  let gated := [.clock (world.timeOfDay [])]
  let stamped := world.timeOfDay gated
  (front.withSession context
    { front.gate.stamp stamped (inbound.head.envelope path) with args }).follow world
      (gated ++ [.clock stamped])

variable {front world past} {path : ApiPath} {inbound : Inbound} {deadline : Nat}

theorem not_options_of_isSupported {method : String} (supported : isSupported method = true) :
    method ≠ "OPTIONS" := by
  intro options
  rw [options] at supported
  exact absurd supported (by decide)

theorem messages_handle_unsupported (unsupported : isSupported inbound.head.method = false) :
    messages ((front.handle deadline path inbound).follow world past).1 = messages past := by
  cases options : inbound.head.method == "OPTIONS" with
  | true => simp only [handle, options, if_true, follow_return]
  | false =>
    simp only [handle, options, Bool.false_eq_true, if_false, unsupported, Bool.not_false, if_true,
      follow_return]

theorem follow_handle_rejected {fault : Fault} (known : inbound.head.method ≠ "OPTIONS")
    (supported : isSupported inbound.head.method = true)
    (rejected : front.authorize path inbound (world.timeOfDay past) = .error fault) :
    (front.handle deadline path inbound).follow world past =
      (past ++ [.clock (world.timeOfDay past)], some (.error fault)) := by
  simp only [handle, beq_iff_eq, known, if_false, supported, Bool.not_true, Bool.false_eq_true,
    follow_bind, follow_timeOfDay, rejected, follow_return]

theorem follow_handle_reserved (known : inbound.head.method ≠ "OPTIONS")
    (supported : isSupported inbound.head.method = true)
    (authorized : front.authorize path inbound (world.timeOfDay past) = .ok ())
    (reserved : path.isEntrypoint = true) :
    (front.handle deadline path inbound).follow world past =
      (past ++ [.clock (world.timeOfDay past)], some (.ok (.notFound inbound.head.uri.path))) := by
  simp only [handle, beq_iff_eq, known, if_false, supported, Bool.not_true, Bool.false_eq_true,
    follow_bind, follow_timeOfDay, authorized, reserved, if_true, follow_return]

theorem follow_handle_admitted (known : inbound.head.method ≠ "OPTIONS")
    (supported : isSupported inbound.head.method = true)
    (authorized : front.authorize path inbound (world.timeOfDay past) = .ok ())
    (unreserved : path.isEntrypoint = false) :
    (front.handle deadline path inbound).follow world past =
      (front.admitted ⟨inbound.head.requestId, some deadline⟩ path inbound).follow world
        (past ++ [.clock (world.timeOfDay past)]) := by
  simp only [handle, beq_iff_eq, known, if_false, supported, Bool.not_true, Bool.false_eq_true,
    follow_bind, follow_timeOfDay, authorized, unreserved]

/-- What is sent once the gate has let a request pass whose arguments can be read. -/
theorem follow_admitted {args : Dict Any} (read : front.arguments inbound = .ok args) :
    (front.admitted context path inbound).follow world past =
      let now := world.timeOfDay past
      let envelope := front.gate.stamp now (inbound.head.envelope path)
      (if path.isHeartbeat then front.heartbeat context envelope args
        else front.serve context path { envelope with args } inbound).follow world
          (past ++ [.clock now]) := by
  simp only [admitted, follow_bind, follow_timeOfDay, read]

theorem messages_admitted_unread {fault : Fault} (unread : front.arguments inbound = .error fault) :
    messages ((front.admitted context path inbound).follow world past).1 = messages past := by
  simp only [admitted, follow_bind, follow_timeOfDay, unread, follow_return, messages_append,
    messages_clock, List.append_nil]

/-- What is sent once the gate has let a request pass whose module is not reserved: at most a
heartbeat for a heartbeat, and otherwise the question about the session and the request itself. -/
theorem messages_admitted (front : Front) (world : World) (context : CallContext) (path : ApiPath)
    (inbound : Inbound) :
    messages ((front.admitted context path inbound).follow world
        [.clock (world.timeOfDay [])]).1 = [] ∨
      (∃ coordinator beat, path.isHeartbeat = true ∧ front.heartbeatTarget = some coordinator ∧
        messages ((front.admitted context path inbound).follow world
          [.clock (world.timeOfDay [])]).1 = [.call context coordinator "POST" beat]) ∨
      ∃ args forwards, path.isHeartbeat = false ∧ front.arguments inbound = .ok args ∧
        messages ((front.admitted context path inbound).follow world
          [.clock (world.timeOfDay [])]).1 =
            front.sessionMessages context
              { front.gate.stamp (world.timeOfDay [.clock (world.timeOfDay [])])
                (inbound.head.envelope path) with args } ++ forwards ∧
        (forwards = [] ∨ ∃ events after forward, forwards = [forward] ∧ path.isInfo = false ∧
          front.sessionStep world context path inbound args = (events, some after) ∧
          after.readonly ≠ some 1 ∧ Forwards context path inbound.head.method after forward) := by
  cases read : front.arguments inbound with
  | error fault =>
    left
    rw [messages_admitted_unread context read, messages_clock]
  | ok args =>
    rw [follow_admitted context read]
    cases beats : path.isHeartbeat with
    | true =>
      simp only [if_true]
      rcases messages_heartbeat front world _ context _ args with
        none | ⟨coordinator, beat, target, sent⟩
      · left
        rw [none]
        rfl
      · right; left
        refine ⟨coordinator, beat, trivial, target, ?_⟩
        rw [sent]
        rfl
    | false =>
      simp only [Bool.false_eq_true, if_false]
      right; right
      obtain ⟨forwards, sent, next⟩ := messages_serve_all front world
        [.clock (world.timeOfDay []), .clock (world.timeOfDay [.clock (world.timeOfDay [])])]
        context path { front.gate.stamp (world.timeOfDay [.clock (world.timeOfDay [])])
          (inbound.head.envelope path) with args } inbound
      exact ⟨args, forwards, trivial, rfl, sent, next⟩

/-- A read-only session has the request refused once the session step is over. -/
theorem follow_admitted_readonly {args : Dict Any} {events : List Event} {after : Envelope}
    (other : path.isHeartbeat = false) (read : front.arguments inbound = .ok args)
    (session : front.sessionStep world context path inbound args = (events, some after))
    (readonly : after.readonly = some 1) :
    (front.admitted context path inbound).follow world [.clock (world.timeOfDay [])] =
      (events, some (.error (.forbidden "session is read-only"))) := by
  rw [follow_admitted context read]
  simp only [other, Bool.false_eq_true, if_false]
  exact follow_serve_readonly front world _ context session readonly

/-! ## API requests -/

/-- What goes along with all that is sent for an API request that begins at `now`. -/
def callContext (front : Front) (now : Nat) (inbound : Inbound) : CallContext :=
  ⟨inbound.head.requestId, some (now + front.requestTimeout)⟩

/-- What is sent for an API request that begins at `now`. -/
def sent (front : Front) (world : World) (now : Nat) (inbound : Inbound) : List Message :=
  messages ((front.api now inbound).follow world []).1

/-- What an API request that begins at `now` is answered with, if it ever is. -/
def answer (front : Front) (world : World) (now : Nat) (inbound : Inbound) : Option Response :=
  ((front.api now inbound).follow world []).2.map (·.1)

variable {now : Nat}

theorem sent_unparsed (unparsed : ApiPath.parse? inbound.head.uri.path = none) :
    front.sent world now inbound = [] := by
  simp only [sent, api, unparsed, follow_return, messages_nil]

theorem sent_parsed (parsed : ApiPath.parse? inbound.head.uri.path = some path) :
    front.sent world now inbound =
      messages ((front.handle (now + front.requestTimeout) path inbound).follow world []).1 := by
  simp only [sent, api, parsed, follow_bind]
  rcases (front.handle (now + front.requestTimeout) path inbound).follow world [] with
    ⟨events, _ | result⟩ <;> rfl

theorem answer_parsed (parsed : ApiPath.parse? inbound.head.uri.path = some path) :
    front.answer world now inbound =
      ((front.handle (now + front.requestTimeout) path inbound).follow world []).2.map respond := by
  simp only [answer, api, parsed, follow_bind]
  rcases (front.handle (now + front.requestTimeout) path inbound).follow world [] with
    ⟨events, _ | result⟩ <;> rfl

/-- Nothing is sent for a request unless its method is served and the gate lets it pass, and its
module is not reserved. -/
theorem gate_of_sent (parsed : ApiPath.parse? inbound.head.uri.path = some path)
    (sends : front.sent world now inbound ≠ []) :
    isSupported inbound.head.method = true ∧ inbound.head.method ≠ "OPTIONS" ∧
      path.isEntrypoint = false ∧
      front.authorize path inbound (world.timeOfDay []) = .ok () := by
  rw [sent_parsed parsed] at sends
  have supported : isSupported inbound.head.method = true := by
    cases supported : isSupported inbound.head.method with
    | false => exact absurd (messages_handle_unsupported supported) sends
    | true => rfl
  have known := not_options_of_isSupported supported
  cases authorized : front.authorize path inbound (world.timeOfDay []) with
  | error fault =>
    rw [follow_handle_rejected known supported authorized] at sends
    exact absurd rfl sends
  | ok _ =>
    cases reserved : path.isEntrypoint with
    | true =>
      rw [follow_handle_reserved known supported authorized reserved] at sends
      exact absurd rfl sends
    | false => exact ⟨supported, known, rfl, rfl⟩

/-- What a request sends that sends anything. -/
theorem sent_cases (parsed : ApiPath.parse? inbound.head.uri.path = some path)
    (sends : front.sent world now inbound ≠ []) :
    (∃ coordinator beat, path.isHeartbeat = true ∧ front.heartbeatTarget = some coordinator ∧
      front.sent world now inbound =
        [.call (front.callContext now inbound) coordinator "POST" beat]) ∨
      ∃ args forwards, path.isHeartbeat = false ∧ path.isEntrypoint = false ∧
        front.arguments inbound = .ok args ∧
        front.sent world now inbound =
          front.sessionMessages (front.callContext now inbound)
            { front.gate.stamp (world.timeOfDay [.clock (world.timeOfDay [])])
              (inbound.head.envelope path) with args } ++ forwards ∧
        (forwards = [] ∨ ∃ events after forward, forwards = [forward] ∧ path.isInfo = false ∧
          front.sessionStep world (front.callContext now inbound) path inbound args =
            (events, some after) ∧
          after.readonly ≠ some 1 ∧
          Forwards (front.callContext now inbound) path inbound.head.method after forward) := by
  obtain ⟨supported, known, unreserved, authorized⟩ := gate_of_sent parsed sends
  have same : front.sent world now inbound =
      messages ((front.admitted (front.callContext now inbound) path inbound).follow world
        [.clock (world.timeOfDay [])]).1 := by
    rw [sent_parsed parsed, follow_handle_admitted known supported authorized unreserved]
    rfl
  rw [same] at sends ⊢
  rcases messages_admitted front world (front.callContext now inbound) path inbound with
    none | beats | ⟨args, forwards, other, read, rest⟩
  · exact absurd none sends
  · exact Or.inl beats
  · exact Or.inr ⟨args, forwards, other, unreserved, read, rest⟩

/-- A read-only session is refused after the session step, with nothing sent on. -/
theorem follow_handle_readonly (now : Nat) {args : Dict Any} {events : List Event}
    {after : Envelope}
    (supported : isSupported inbound.head.method = true)
    (authorized : front.authorize path inbound (world.timeOfDay []) = .ok ())
    (other : path.isHeartbeat = false) (unreserved : path.isEntrypoint = false)
    (read : front.arguments inbound = .ok args)
    (session : front.sessionStep world (front.callContext now inbound) path inbound args =
      (events, some after))
    (readonly : after.readonly = some 1) :
    (front.handle (now + front.requestTimeout) path inbound).follow world [] =
      (events, some (.error (.forbidden "session is read-only"))) := by
  rw [follow_handle_admitted (not_options_of_isSupported supported) supported authorized unreserved]
  exact follow_admitted_readonly (front.callContext now inbound) other read session readonly

/-- The messages of an API request, in any world: whatever backends answer, and whether they answer.

Nothing is sent unless the method is served and the gate has let the request pass. Then one
heartbeat may go to the coordinator, for a heartbeat; or the session service is asked, if sessions
are enabled and there is a token, and the request goes on to its module at most once, in the
envelope that the session step leaves. A read-only session ends in a refusal, and a request that the
gate turns away in the gate's own fault. -/
theorem api_messages (front : Front) (world : World) (now : Nat) (inbound : Inbound) :
    (front.sent world now inbound ≠ [] →
      ∃ path, ApiPath.parse? inbound.head.uri.path = some path ∧
        isSupported inbound.head.method = true ∧ inbound.head.method ≠ "OPTIONS" ∧
        front.gate.authorize path.module (inbound.head.headers.raw? "x-sign")
          inbound.certificates (world.timeOfDay []) = .ok ()) ∧
    ∀ path, ApiPath.parse? inbound.head.uri.path = some path →
      let context := front.callContext now inbound
      (front.sent world now inbound = [] ∨
        (∃ coordinator beat, path.module = "heartbeat" ∧
          front.heartbeatTarget = some coordinator ∧
          front.sent world now inbound = [.call context coordinator "POST" beat]) ∨
        ∃ checks forwards, path.module ≠ "heartbeat" ∧ path.module ≠ "entrypoint" ∧
          front.sent world now inbound = checks ++ forwards ∧
          (checks = [] ∨ front.session.enabled = true ∧
            (inbound.head.envelope path).token.isSome = true ∧
            ∃ request, checks = [.call context front.session.service "GET" request]) ∧
          (forwards = [] ∨ ∃ args events after forward, forwards = [forward] ∧
            path.module ≠ "info" ∧ front.arguments inbound = .ok args ∧
            front.sessionStep world context path inbound args = (events, some after) ∧
            after.readonly ≠ some 1 ∧
            Forwards context path inbound.head.method after forward)) ∧
      (∀ args events after, isSupported inbound.head.method = true →
        front.gate.authorize path.module (inbound.head.headers.raw? "x-sign")
          inbound.certificates (world.timeOfDay []) = .ok () →
        path.module ≠ "heartbeat" → path.module ≠ "entrypoint" →
        front.arguments inbound = .ok args →
        front.sessionStep world context path inbound args = (events, some after) →
        after.readonly = some 1 →
        front.sent world now inbound = messages events ∧
          front.answer world now inbound = some (.ofFault (.forbidden "session is read-only")) ∧
          (Response.ofFault (.forbidden "session is read-only")).status = 403) ∧
      ∀ fault, isSupported inbound.head.method = true →
        front.gate.authorize path.module (inbound.head.headers.raw? "x-sign")
          inbound.certificates (world.timeOfDay []) = .error fault →
        front.sent world now inbound = [] ∧
          front.answer world now inbound = some (.ofFault fault) := by
  refine ⟨?_, ?_⟩
  · intro sends
    cases parsed : ApiPath.parse? inbound.head.uri.path with
    | none => exact absurd (sent_unparsed parsed) sends
    | some path =>
      obtain ⟨supported, known, -, authorized⟩ := gate_of_sent parsed sends
      exact ⟨path, rfl, supported, known, authorized⟩
  · intro path parsed context
    refine ⟨?_, ?_, ?_⟩
    · by_cases sends : front.sent world now inbound = []
      · exact Or.inl sends
      · right
        rcases sent_cases parsed sends with ⟨coordinator, beat, beats, target, sent⟩ |
          ⟨args, forwards, other, unreserved, read, sent, next⟩
        · exact Or.inl ⟨coordinator, beat, beq_iff_eq.mp beats, target, sent⟩
        · right
          refine ⟨_, forwards, beq_eq_false_iff_ne.mp other, beq_eq_false_iff_ne.mp unreserved,
            sent, ?_, ?_⟩
          · rcases sessionMessages_cases front context
              { front.gate.stamp (world.timeOfDay [.clock (world.timeOfDay [])])
                (inbound.head.envelope path) with args } with none | ⟨enabled, token, asks⟩
            · exact Or.inl none
            · exact Or.inr ⟨enabled, token, _, asks⟩
          · rcases next with none | ⟨events, after, forward, single, asksBackend, step, writable,
              forwards⟩
            · exact Or.inl none
            · exact Or.inr ⟨args, events, after, forward, single,
                beq_eq_false_iff_ne.mp asksBackend, read, step, writable, forwards⟩
    · intro args events after supported authorized other unreserved read session readonly
      have refused := follow_handle_readonly now supported authorized
        (beq_eq_false_iff_ne.mpr other) (beq_eq_false_iff_ne.mpr unreserved) read session readonly
      rw [sent_parsed parsed, answer_parsed parsed, refused]
      exact ⟨rfl, rfl, rfl⟩
    · intro fault supported rejected
      rw [sent_parsed parsed, answer_parsed parsed, follow_handle_rejected
        (not_options_of_isSupported supported) supported rejected]
      exact ⟨rfl, rfl⟩

end Front

end Gatehouse
