import Gatehouse.Exchange.Run
import Gatehouse.Route.Pattern
import Gatehouse.Security.Limiter
import Gatehouse.Server.Handler

/-!
The HTTP side of the gateway: what surrounds the handlers.

A request is given a name if it has none. It is refused if it announces too long a body, or if its
client has sent too many; then it goes to the handler of its path. Whatever is not answered within
the time for a request is given up. Every response leaves with the same headers and the name of its
request, and without a body if only its head was asked for.
-/

namespace Gatehouse

/-- The handlers, and the limiter if the rate of requests is limited. -/
structure Server (α : Type) where
  front : Front
  limiter : Option (Limiter α) := none

namespace Server

variable {α σ : Type} [Quantity α]

def ofConfig (config : Config) (gate : Gate) (files : Net.Files) : Server α where
  front := .ofConfig config gate files
  limiter := if config.rateLimit.enabled then some (.ofConfig config.rateLimit) else none

/-- The time between two passes over the buckets, if the rate of requests is limited. -/
def sweepPeriod? (server : Server α) (config : Config.RateLimit) : Option Nat :=
  server.limiter.map fun _ => Duration.ofSecs config.idleSweepSecs

/-! ## Names of requests -/

/-- The header with the name of a request. -/
def requestIdHeader : String := "x-request-id"

/-- A request with a name: its own, or else a new one. -/
def named (newId : String) (inbound : Inbound) : Inbound :=
  match inbound.head.headers.get? requestIdHeader with
  | some _ => inbound
  | none =>
    { inbound with head :=
        { inbound.head with headers := inbound.head.headers ++ [(requestIdHeader, utf8 newId)] } }

/-! ## Limits -/

/-- The answer to a request whose body is too long. -/
def tooLarge : Response :=
  ⟨413, [("content-type", utf8 "text/plain; charset=utf-8")], utf8 Inbound.tooLong⟩

/-- The answer to a client that sends too many requests. -/
def tooMany : Response :=
  .refusal 429 "rate_limited" "rate limit exceeded"

/-- The client whose rate a request counts for: the other end of the connection, and if that is not
known the address that the head reports. -/
def limitedClient (head : Request.Head) : String :=
  match head.peer with
  | some ip => ip.text
  | none => head.clientIp

/-- Whether a request is within the rate of its client, and the server afterwards. -/
def withinRate (server : Server α) (head : Request.Head) (now : Nat) : Bool × Server α :=
  match server.limiter with
  | none => (true, server)
  | some limiter =>
    let (passes, limiter) := limiter.check (limitedClient head) now
    (passes, { server with limiter := some limiter })

/-! ## Handlers -/

/-- Whether the process is up. Only reading is allowed. -/
def health (method : String) : Response :=
  if method == "GET" || method == "HEAD" then .health
  else ⟨405, [("allow", utf8 "GET,HEAD")], []⟩

/-- The answer to a request for a path without a handler. -/
def noHandler (head : Request.Head) : Response :=
  if head.method == "OPTIONS" then .options else .notFound head.uri.path

/-- Hand a request to the handler of its path. -/
def dispatch (server : Server α) (now : Nat) (inbound : Inbound) :
    Exchange (Response × List Metrics.Event) :=
  match Route.handler? inbound.head.uri.path with
  | some .api => server.front.api now inbound
  | some .health => return (health inbound.head.method, [])
  | none => return (noHandler inbound.head, [])

/-- What is done for a request that arrives at `now`, and the server afterwards. -/
def accept (server : Server α) (now : Nat) (inbound : Inbound) :
    Exchange (Response × List Metrics.Event) × Server α :=
  match inbound.limited? server.front.upload.maxBodyBytes with
  | none => (return (tooLarge, []), server)
  | some inbound =>
    match server.withinRate inbound.head now with
    | (true, server) => (server.dispatch now inbound, server)
    | (false, server) => (return (tooMany, [.rateLimited]), server)

/-! ## Responses -/

/-- The headers of every response that does not have them already. -/
def commonHeaders : List (String × String) := [
  ("access-control-allow-origin", "*"),
  ("access-control-allow-methods", "POST, GET, OPTIONS, PUT, DELETE, TRACE, PATCH, HEAD"),
  ("access-control-allow-headers", "Authorization, Content-Type, X-Request-ID, X-Sign, X-Filename"),
  ("server", "api-gateway")]

/-- Add a header that a response does not have. -/
def addHeader (response : Response) (name : String) (value : Bytes) : Response :=
  match response.headers.get? name with
  | some _ => response
  | none => { response with headers := response.headers ++ [(name, value)] }

/-- A response as it leaves, to a request with this head. -/
def complete (head : Request.Head) (response : Response) : Response :=
  let response :=
    commonHeaders.foldl (fun r (name, value) => addHeader r name (utf8 value)) response
  let response := match head.headers.get? requestIdHeader with
    | some id => addHeader response requestIdHeader id
    | none => response
  if head.method == "HEAD" then { response with body := [] } else response

/-- The answer to a request that took too long. -/
def timedOut : Response := ⟨504, [], []⟩

/-- What became of a request: the response, what was recorded about it, when it left, and what there
is afterwards. -/
structure Served (α σ : Type) where
  response : Response
  events : List Metrics.Event
  ended : Nat
  server : Server α
  state : σ

/-- Serve a request that arrives at `now`. A response has to be there before its time is over, so
that nothing is done for a request that has no time. -/
def serve (server : Server α) (backend : Backend σ) (clock : Nat → Int) (newId : String)
    (now : Nat) (state : σ) (inbound : Inbound) : Served α σ :=
  let inbound := named newId inbound
  let deadline := now + server.front.requestTimeout
  if deadline ≤ now then ⟨complete inbound.head timedOut, [], now, server, state⟩
  else
    let (exchange, server) := server.accept now inbound
    match exchange.run backend clock (some (deadline - 1)) now state with
    | (some (ended, response, events), state) =>
      ⟨complete inbound.head response, events, ended, server, state⟩
    | (none, state) => ⟨complete inbound.head timedOut, [], deadline, server, state⟩

end Server

end Gatehouse
