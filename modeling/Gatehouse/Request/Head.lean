import Gatehouse.Net.Address
import Gatehouse.Request.Form
import Gatehouse.Request.Headers
import Gatehouse.Request.Uri
import Gatehouse.Route.Path
import Gatehouse.Wire.Envelope

/-!
What the gateway reads from the head of a request, and the envelope it starts for it.

Every text that is read from a header is trimmed, and one that is blank counts as absent, so an
envelope never starts with a field that is set and empty.
-/

namespace Gatehouse.Request

/-- The head of a request, and the address at the other end of its connection. -/
structure Head where
  method : String
  uri : Uri
  headers : Headers
  peer : Option Net.IpAddr := none
  deriving Repr, Inhabited

/-- The part of a text in front of the first `separator`. -/
def upTo (separator : Char) (s : String) : String :=
  String.ofList (s.toList.takeWhile (· != separator))

/-- A text without the white space at its ends, unless that leaves nothing. -/
def nonBlank? (s : String) : Option String :=
  some (Text.trim s) |>.filter (! ·.isEmpty)

namespace Head

/-- The values of the query. -/
def query (head : Head) : Dict String :=
  Form.parse (head.uri.query.getD "")

/-- The address of the client: the first hop that a proxy reports, or the address that a proxy
reports, or the other end of the connection. -/
def clientIp (head : Head) : String :=
  match (head.headers.text? "x-forwarded-for").bind fun hops => nonBlank? (upTo ',' hops) with
  | some hop => hop
  | none =>
    match head.headers.text? "x-real-ip" with
    | some ip => ip
    | none =>
      match head.peer with
      | some ip => ip.text
      | none => "unknown"

def requestId (head : Head) : String :=
  (head.headers.text? "x-request-id").getD "unknown"

/-- The kind of token that clients bring. -/
def bearer : String := "Bearer"

/-- The token in the value of an authorization header, behind the word for its kind. -/
def authorizationToken? (value : String) : Option String :=
  let (scheme, rest) := value.toList.span (· != ' ')
  if rest.isEmpty ∨ Headers.lower (String.ofList scheme) ≠ Headers.lower bearer then none
  else nonBlank? (String.ofList (rest.drop 1))

/-- The kind and the text of the client's token. A header that can be read decides alone, also if it
holds no such token; only without one does the query count. -/
def token? (head : Head) : Option (String × String) :=
  match head.headers.text? "authorization" with
  | some value => (authorizationToken? value).map fun token => (bearer, token)
  | none =>
    match (head.query.get? "access_token").filter (! ·.isEmpty) with
    | some token =>
      some (((head.query.get? "token_type").filter (! ·.isEmpty)).getD bearer, token)
    | none => none

/-- The first language that the client accepts, if it names one. -/
def language? (head : Head) : Option String :=
  match head.headers.text? "accept-language" with
  | some list => (nonBlank? (upTo ';' (upTo ',' list))).filter (· != "*")
  | none => none

/-- The envelope of a request for a path, without arguments. -/
def envelope (head : Head) (path : ApiPath) : Envelope where
  module := some path.module
  param := path.param
  paramId := path.paramId
  path := some head.uri.path
  method := some head.method
  ip := some head.clientIp
  userAgent := head.headers.text? "user-agent"
  apiVersion := some path.version
  language := head.language?
  tokenType := head.token?.map (·.1)
  token := head.token?.map (·.2)

end Head

end Gatehouse.Request
