import Gatehouse.Fault
import Gatehouse.Registry.Location
import Gatehouse.Wire.Argument
import Gatehouse.Wire.Envelope

/-!
The messages of a lookup.

The coordinator is asked for the location of a service in an envelope of its own, with the service
as an argument of the inner call. Its answer holds the location, or says why there is none.
-/

namespace Gatehouse

namespace Coordinator

/-- The inner call that asks for a location. -/
def lookupSelector : String := "getmicroservicebypath"

/-- The argument that names the service. -/
def targetArgument : String := "module"

/-- The request for the location of a service, addressed to the coordinator. -/
def lookupRequest (coordinator service : String) : Envelope :=
  { module := some coordinator
    inner := some
      { param := some lookupSelector
        method := some "GET"
        args := (∅ : Dict Any).insert targetArgument (Any.ofJson (.str service)) } }

/-- The service that a request asks about. -/
def lookupTarget? (request : Envelope) : Option String := do
  let inner ← request.inner
  let argument ← inner.args.get? targetArgument
  let value ← argument.json?
  value.asStr?

/-- The JSON value under a name. -/
def value? (data : Dict Any) (name : String) : Option Json :=
  (data.get? name).bind Any.json?

/-- The text under a name; no text if there is no string. -/
def textOf (data : Dict Any) (name : String) : String :=
  ((value? data name).bind Json.asStr?).getD ""

/-- A port is a string or a number. -/
def portOf (data : Dict Any) : String :=
  match value? data "port" with
  | some (.str port) => port
  | some (.num port) => Json.text (.num port)
  | _ => ""

/-- Whether the service is reachable only from inside: a truth value, an integer other than zero, or
one of two words. -/
def isInternal (data : Dict Any) : Bool :=
  match value? data "isinternal" with
  | some (.bool b) => b
  | some (.num n) => (Json.asInt64? (.num n)).getD 0 != 0
  | some (.str s) => s == "true" || s == "1"
  | _ => false

/-- The location in an answer, as found now. -/
def readReply (service : String) (data : Dict Any) (now : Nat) : Except Fault Location :=
  match value? data "httpcode" with
  | some code =>
    .error (.unavailable service
      ("coordinator answered " ++ code.text ++ ": " ++ textOf data "message"))
  | none =>
    let host := textOf data "host"
    let port := portOf data
    if host.isEmpty || port.isEmpty then
      .error (.unavailable service "coordinator returned an empty host or port")
    else .ok ⟨host, port, isInternal data, now⟩

end Coordinator

end Gatehouse
