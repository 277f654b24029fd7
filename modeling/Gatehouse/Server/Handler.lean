import Gatehouse.Answer.Render
import Gatehouse.Config.Basic
import Gatehouse.Heartbeat
import Gatehouse.Metrics
import Gatehouse.Net.Files
import Gatehouse.Request.Arguments
import Gatehouse.Server.Inbound
import Gatehouse.Session.Check
import Gatehouse.Upload.Multipart

/-!
The handler of API requests.

A request passes the gate before anything else is done for it. Then its envelope is made and
stamped, and its arguments are read. Heartbeats and questions about the gateway are answered at
once; anything else is sent on to the module that the path names, as an upload if the method is PUT
and as a call otherwise. Before that the session service is asked about the client's token, if
sessions are enabled and there is one, and a client whose session is read-only is turned away.
-/

namespace Gatehouse

/-- What the handler works with. -/
structure Front where
  gate : Gate
  session : Config.Session := {}
  upload : Config.Upload := {}
  /-- How long a request may take. -/
  requestTimeout : Nat
  /-- The coordinator to which heartbeats are passed on. -/
  heartbeatTarget : Option String := none
  /-- The files on the gateway's host. -/
  files : Net.Files

namespace Front

def ofConfig (config : Config) (gate : Gate) (files : Net.Files) : Front where
  gate := gate
  session := config.session
  upload := config.upload
  requestTimeout := Duration.ofSecs config.timeouts.requestSecs
  heartbeatTarget :=
    match config.registry.mode with
    | .static => none
    | .coordinator => some config.registry.coordinatorService
  files := files

/-! ## Methods -/

/-- The methods whose arguments are in the query. -/
def readsQuery (method : String) : Bool :=
  ["GET", "HEAD", "TRACE"].contains method

/-- The method of uploads. -/
def uploadMethod : String := "PUT"

/-- The methods that are served. -/
def isSupported (method : String) : Bool :=
  readsQuery method || method == uploadMethod || ["POST", "PATCH", "DELETE"].contains method

/-! ## What is read from a request -/

/-- The arguments of a request. An upload has none. -/
def arguments (front : Front) (inbound : Inbound) : Except Fault (Dict Any) :=
  let method := inbound.head.method
  if method == uploadMethod then .ok ∅
  else if readsQuery method then .ok (Request.queryArgs inbound.head.query)
  else
    match Upload.content (Inbound.limitFrames front.upload.maxBodyBytes inbound.body) with
    | .ok body => Request.jsonArgs body
    | .error reason => .error (.badRequest ("reading body: " ++ reason))

/-- Whether the body is a multipart form. -/
def isForm (inbound : Inbound) : Bool :=
  ((inbound.head.headers.raw? "content-type").getD "").startsWith "multipart/form-data"

/-- The files in the body of a request. -/
def uploadSource (front : Front) (inbound : Inbound) : Except Fault Upload.Source :=
  if isForm inbound then
    match (Upload.MediaType.ofHeaders? inbound.head.headers).bind (·.boundary?) with
    | some boundary => .ok (Upload.Multipart.read boundary inbound.body)
    | none => .error (.badRequest "Invalid `boundary` for `multipart/form-data` request")
  else
    let filename := (inbound.head.headers.text? "x-filename").getD front.upload.defaultFilename
    .ok (.single filename inbound.body)

/-! ## Answers -/

/-- Answer with data of the gateway's own. -/
def render (envelope : Envelope) (data : Answer.Data) : Exchange Response := do
  return Answer.render (← Exchange.timeOfDay) envelope data

/-- What a heartbeat is answered with: what the coordinator says, or the gateway's own data. -/
def heartbeatData (front : Front) (context : CallContext) (args : Dict Any) :
    Exchange (Except Fault Answer.Data) := do
  match front.heartbeatTarget with
  | some coordinator => Heartbeat.relay context front.gate coordinator args
  | none => return .ok (Heartbeat.ownData (← Exchange.timeOfDay))

/-- Answer a heartbeat. -/
def heartbeat (front : Front) (context : CallContext) (envelope : Envelope) (args : Dict Any) :
    Exchange (Except Fault Response) := do
  match ← front.heartbeatData context args with
  | .ok data => return .ok (← render envelope data)
  | .error fault => return .error fault

/-- Send the files of a request to a module. -/
def forwardUpload (front : Front) (context : CallContext) (module : String) (envelope : Envelope)
    (inbound : Inbound) : Exchange (Except Fault Response) := do
  match front.uploadSource inbound with
  | .error fault => return .error fault
  | .ok source =>
    match ← Exchange.send context module envelope source with
    | .error fault => return .error fault
    | .ok summary => return .ok (← render envelope (Answer.uploadData summary))

/-- Send a request to a module. -/
def forwardCall (front : Front) (context : CallContext) (module method : String)
    (envelope : Envelope) : Exchange (Except Fault Response) := do
  match ← Exchange.dispatch context module method envelope with
  | .error fault => return .error fault
  | .ok (reply, envelope) =>
    let readFile (path : String) := (front.files path).toOption
    return .ok (Answer.answer readFile (← Exchange.timeOfDay) envelope (membersOfArgs reply.data))

/-! ## The way of a request -/

/-- The envelope with the session of its token. -/
def withSession (front : Front) (context : CallContext) (envelope : Envelope) : Exchange Envelope :=
  if front.session.enabled && envelope.token.isSome then
    Session.check context front.session.service envelope
  else return envelope

/-- Whether a session allows nothing but reading. -/
def isReadOnly (envelope : Envelope) : Bool :=
  envelope.readonly == some 1

/-- Serve a request whose arguments are known. -/
def serve (front : Front) (context : CallContext) (path : ApiPath) (envelope : Envelope)
    (inbound : Inbound) : Exchange (Except Fault Response) := do
  let envelope ← front.withSession context envelope
  if isReadOnly envelope then
    return .error (.forbidden "session is read-only")
  else if path.isInfo then
    return .ok (← render envelope Answer.info)
  else if inbound.head.method == uploadMethod then
    front.forwardUpload context path.module envelope inbound
  else
    front.forwardCall context path.module inbound.head.method envelope

/-- Serve a request that has passed the gate. -/
def admitted (front : Front) (context : CallContext) (path : ApiPath) (inbound : Inbound) :
    Exchange (Except Fault Response) := do
  let envelope := front.gate.stamp (← Exchange.timeOfDay) (inbound.head.envelope path)
  match front.arguments inbound with
  | .error fault => return .error fault
  | .ok args =>
    if path.isHeartbeat then front.heartbeat context envelope args
    else front.serve context path { envelope with args } inbound

/-- Whether a request for a path passes the gate at a time of day. -/
def authorize (front : Front) (path : ApiPath) (inbound : Inbound) (now : Int) :
    Except Fault Unit :=
  front.gate.authorize path.module (inbound.head.headers.raw? "x-sign") inbound.certificates now

/-- Serve a request for a path, which has to be answered until the deadline. -/
def handle (front : Front) (deadline : Nat) (path : ApiPath) (inbound : Inbound) :
    Exchange (Except Fault Response) := do
  let head := inbound.head
  if head.method == "OPTIONS" then return .ok .options
  else if ! isSupported head.method then return .ok (.methodNotAllowed head.method)
  else
    match front.authorize path inbound (← Exchange.timeOfDay) with
    | .error fault => return .error fault
    | .ok _ =>
      if path.isEntrypoint then return .ok (.notFound head.uri.path)
      else front.admitted ⟨head.requestId, some deadline⟩ path inbound

/-- What a request came to, as a response. -/
def respond (result : Except Fault Response) : Response :=
  match result with
  | .ok response => response
  | .error fault => .ofFault fault

/-- Serve an API request that begins at `now`: its response, and what is recorded about it. -/
def api (front : Front) (now : Nat) (inbound : Inbound) :
    Exchange (Response × List Metrics.Event) := do
  let head := inbound.head
  match ApiPath.parse? head.uri.path with
  | none => return (.notFound head.uri.path, [.request head.method 404 "none"])
  | some path =>
    let response := respond (← front.handle (now + front.requestTimeout) path inbound)
    return (response, [.request head.method response.status path.module])

end Front

end Gatehouse
