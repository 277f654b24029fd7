import Gatehouse.Server.Basic

/-!
What a client presents to the gate.

Nothing but the gate reads the sign that a client presents. Two requests that differ in it alone are
served alike as long as the gate's verdict on them is the same: the same is sent at the same time,
the same is answered, and the same is left behind.
-/

namespace Gatehouse

/-- Another request is the same but for the sign that the client presents. -/
structure Inbound.SameButSign (inbound other : Inbound) : Prop where
  method : other.head.method = inbound.head.method
  uri : other.head.uri = inbound.head.uri
  peer : other.head.peer = inbound.head.peer
  headers : ∀ name, name ≠ "x-sign" →
    other.head.headers.get? name = inbound.head.headers.get? name
  body : other.body = inbound.body
  certificates : other.certificates = inbound.certificates

namespace Inbound

variable {inbound other : Inbound}

namespace SameButSign

variable (same : inbound.SameButSign other)

include same

theorem raw? {name : String} (different : name ≠ "x-sign") :
    other.head.headers.raw? name = inbound.head.headers.raw? name := by
  simp only [Headers.raw?, same.headers name different]

theorem text? {name : String} (different : name ≠ "x-sign") :
    other.head.headers.text? name = inbound.head.headers.text? name := by
  simp only [Headers.text?, same.raw? different]

/-! ## What is read from the head -/

theorem query : other.head.query = inbound.head.query := by
  simp only [Request.Head.query, same.uri]

theorem clientIp : other.head.clientIp = inbound.head.clientIp := by
  unfold Request.Head.clientIp
  rw [same.text? (by decide), same.text? (by decide), same.peer]

theorem requestId : other.head.requestId = inbound.head.requestId := by
  unfold Request.Head.requestId
  rw [same.text? (by decide)]

theorem token? : other.head.token? = inbound.head.token? := by
  unfold Request.Head.token?
  rw [same.text? (by decide), same.query]

theorem language? : other.head.language? = inbound.head.language? := by
  unfold Request.Head.language?
  rw [same.text? (by decide)]

theorem envelope (path : ApiPath) : other.head.envelope path = inbound.head.envelope path := by
  unfold Request.Head.envelope
  rw [same.uri, same.method, same.clientIp, same.text? (by decide), same.language?, same.token?]

/-! ## On the way to the handler -/

theorem named (newId : String) :
    (Server.named newId inbound).SameButSign (Server.named newId other) := by
  have sameId := same.headers Server.requestIdHeader (by decide)
  unfold Server.named
  rw [sameId]
  cases inbound.head.headers.get? Server.requestIdHeader with
  | some id => exact same
  | none =>
    refine { same with headers := fun name different => ?_ }
    have agree := same.headers name different
    simp only [Headers.get?] at agree
    simp only [Headers.get?, List.lookup_append, agree]

theorem announced? : other.announced? = inbound.announced? := by
  unfold Inbound.announced?
  rw [same.raw? (by decide)]

theorem limited? (limit : Nat) :
    inbound.limited? limit = none ∧ other.limited? limit = none ∨
      ∃ body, inbound.limited? limit = some { inbound with body } ∧
        other.limited? limit = some { other with body } := by
  unfold Inbound.limited?
  rw [same.announced?, same.body]
  cases inbound.announced? with
  | none => exact Or.inr ⟨_, rfl, rfl⟩
  | some length =>
    dsimp only
    split
    · exact Or.inl ⟨rfl, rfl⟩
    · exact Or.inr ⟨_, rfl, rfl⟩

theorem withBody (body : List Upload.Frame) :
    SameButSign { inbound with body } { other with body } :=
  { same with body := rfl }

theorem limitedClient : Server.limitedClient other.head = Server.limitedClient inbound.head := by
  unfold Server.limitedClient
  rw [same.peer, same.clientIp]

theorem complete (response : Response) :
    Server.complete other.head response = Server.complete inbound.head response := by
  unfold Server.complete
  rw [same.headers Server.requestIdHeader (by decide), same.method]

end SameButSign

end Inbound

/-! ## Exchanges that begin alike -/

namespace Exchange

variable {α β σ : Type} {backend : Backend σ} {clock : Nat → Int} {now : Nat}

theorem run_bind (exchange : Exchange α) (after : α → Exchange β) :
    (exchange >>= after).run backend clock =
      (exchange.run backend clock).bind fun value => (after value).run backend clock := by
  change (exchange.bind after).run backend clock = _
  induction exchange with
  | done value => rfl
  | clock next ih =>
    funext limit now state
    exact congrFun (congrFun (congrFun (ih (clock now)) limit) now) state
  | call context service method request next ih =>
    funext limit now state
    simp only [Exchange.bind, run, Timed.bind, ih]
    rcases backend.call context service method request limit now state with ⟨_ | _, _⟩ <;> rfl
  | upload context service template source next ih =>
    funext limit now state
    simp only [Exchange.bind, run, Timed.bind, ih]
    rcases backend.upload context service template source limit now state with ⟨_ | _, _⟩ <;> rfl

/-- Exchanges that make no difference to backends if they begin at `now`. -/
def AlikeAt (backend : Backend σ) (clock : Nat → Int) (now : Nat) (first second : Exchange α) :
    Prop :=
  ∀ limit state, (first.run backend clock) limit now state =
    (second.run backend clock) limit now state

namespace AlikeAt

theorem refl (exchange : Exchange α) : AlikeAt backend clock now exchange exchange :=
  fun _ _ => rfl

theorem bind {first second : Exchange α} (alike : AlikeAt backend clock now first second)
    (after : α → Exchange β) :
    AlikeAt backend clock now (first >>= after) (second >>= after) := by
  intro limit state
  rw [run_bind, run_bind, Timed.bind, Timed.bind, alike limit state]

/-- The time of day that is read first is that at the beginning. -/
theorem timeOfDay_bind {first second : Int → Exchange α}
    (alike : AlikeAt backend clock now (first (clock now)) (second (clock now))) :
    AlikeAt backend clock now (timeOfDay >>= first) (timeOfDay >>= second) :=
  alike

end AlikeAt

end Exchange

/-! ## The handler -/

namespace Front

open Inbound

variable {front : Front} {inbound other : Inbound}

theorem arguments_presented (same : inbound.SameButSign other) :
    front.arguments other = front.arguments inbound := by
  unfold arguments
  rw [same.method, same.query, same.body]

theorem uploadSource_presented (same : inbound.SameButSign other) :
    front.uploadSource other = front.uploadSource inbound := by
  unfold uploadSource isForm Upload.MediaType.ofHeaders?
  rw [same.raw? (by decide), same.text? (by decide), same.body]

theorem serve_presented (same : inbound.SameButSign other) (context : CallContext) (path : ApiPath)
    (envelope : Envelope) :
    front.serve context path envelope other = front.serve context path envelope inbound := by
  unfold serve forwardUpload
  rw [same.method, uploadSource_presented same]

/-- Once the gate has let a request pass, it does not matter what was presented to it. -/
theorem admitted_presented (same : inbound.SameButSign other) (context : CallContext)
    (path : ApiPath) :
    front.admitted context path other = front.admitted context path inbound := by
  unfold admitted
  rw [same.envelope path, arguments_presented same]
  simp only [serve_presented same]

variable {σ : Type} {backend : Backend σ} {clock : Nat → Int} {now : Nat}

theorem run_handle_presented (same : inbound.SameButSign other) {path : ApiPath}
    (verdict : front.authorize path other (clock now) =
      front.authorize path inbound (clock now)) (deadline : Nat) :
    Exchange.AlikeAt backend clock now (front.handle deadline path other)
      (front.handle deadline path inbound) := by
  simp only [handle, same.method, same.uri, same.requestId]
  split
  · exact Exchange.AlikeAt.refl _
  · split
    · exact Exchange.AlikeAt.refl _
    · refine Exchange.AlikeAt.timeOfDay_bind ?_
      rw [verdict]
      simp only [admitted_presented same]
      exact Exchange.AlikeAt.refl _

/-- An API request is served alike on the same verdict, which is given as the request arrives. -/
theorem run_api_presented (same : inbound.SameButSign other)
    (verdict : ∀ path, front.authorize path other (clock now) =
      front.authorize path inbound (clock now)) :
    Exchange.AlikeAt backend clock now (front.api now other) (front.api now inbound) := by
  simp only [api, same.method, same.uri]
  cases ApiPath.parse? inbound.head.uri.path with
  | none => exact Exchange.AlikeAt.refl _
  | some path => exact (run_handle_presented same (verdict path) _).bind _

end Front

/-! ## The server -/

namespace Server

open Inbound

variable {α σ : Type} {backend : Backend σ} {clock : Nat → Int} {now : Nat}
  {inbound other : Inbound}

/-- The gate does not see the name that a request is given. -/
theorem authorize_named (front : Front) (path : ApiPath) (newId : String) (inbound : Inbound) :
    front.authorize path (named newId inbound) = front.authorize path inbound := by
  funext now
  unfold named
  cases inbound.head.headers.get? requestIdHeader with
  | some id => rfl
  | none =>
    have absent : List.lookup "x-sign" [(requestIdHeader, utf8 newId)] = none := rfl
    simp only [Front.authorize, Headers.raw?, Headers.get?, List.lookup_append, absent,
      Option.or_none]

theorem dispatch_presented (server : Server α) (same : inbound.SameButSign other)
    (verdict : ∀ path, server.front.authorize path other (clock now) =
      server.front.authorize path inbound (clock now)) :
    Exchange.AlikeAt backend clock now (server.dispatch now other)
      (server.dispatch now inbound) := by
  simp only [dispatch, same.uri, same.method, noHandler]
  split
  · exact Front.run_api_presented same verdict
  · exact Exchange.AlikeAt.refl _
  · exact Exchange.AlikeAt.refl _

variable [Quantity α]

theorem front_withinRate (server : Server α) (head : Request.Head) (now : Nat) :
    (server.withinRate head now).2.front = server.front := by
  unfold withinRate
  cases server.limiter <;> rfl

theorem accept_presented (server : Server α) (same : inbound.SameButSign other)
    (verdict : ∀ path, server.front.authorize path other (clock now) =
      server.front.authorize path inbound (clock now)) :
    Exchange.AlikeAt backend clock now (server.accept now other).1 (server.accept now inbound).1 ∧
      (server.accept now other).2 = (server.accept now inbound).2 := by
  unfold accept
  rcases same.limited? server.front.upload.maxBodyBytes with ⟨none, otherNone⟩ |
    ⟨body, limited, otherLimited⟩
  · rw [none, otherNone]
    exact ⟨Exchange.AlikeAt.refl _, rfl⟩
  · rw [limited, otherLimited]
    have sameRate : server.withinRate other.head now = server.withinRate inbound.head now := by
      unfold withinRate
      rw [same.limitedClient]
    dsimp only
    rw [sameRate]
    have sameFront := front_withinRate server inbound.head now
    rcases passed : server.withinRate inbound.head now with ⟨passes, after⟩
    rw [passed] at sameFront
    cases passes with
    | false => exact ⟨Exchange.AlikeAt.refl _, rfl⟩
    | true =>
      refine ⟨dispatch_presented after (same.withBody body) ?_, rfl⟩
      rw [show after.front = server.front from sameFront]
      exact verdict

/-- Two requests that differ in nothing but what is presented to the gate are served alike if the
gate's verdict on them is the same when they arrive. -/
theorem serve_presented (server : Server α) (backend : Backend σ) (clock : Nat → Int)
    (newId : String) (now : Nat) (state : σ) (same : inbound.SameButSign other)
    (verdict : ∀ path, server.front.authorize path other (clock now) =
      server.front.authorize path inbound (clock now)) :
    server.serve backend clock newId now state other =
      server.serve backend clock newId now state inbound := by
  have sameNamed := same.named newId
  have alike : Exchange.AlikeAt backend clock now (server.accept now (named newId other)).1
        (server.accept now (named newId inbound)).1 ∧
      (server.accept now (named newId other)).2 = (server.accept now (named newId inbound)).2 := by
    refine accept_presented server sameNamed fun path => ?_
    rw [authorize_named, authorize_named, verdict path]
  simp only [serve, sameNamed.complete]
  split
  · rfl
  · rcases first : server.accept now (named newId other) with ⟨exchange, after⟩
    rcases second : server.accept now (named newId inbound) with ⟨exchange', after'⟩
    rw [first, second] at alike
    obtain ⟨alikeAt, sameServer⟩ := alike
    dsimp only at sameServer ⊢
    rw [alikeAt, sameServer]

end Server

end Gatehouse
