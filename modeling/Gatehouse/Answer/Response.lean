import Gatehouse.Fault
import Gatehouse.Json.Printer
import Gatehouse.Request.Headers

/-!
Answers to clients.
-/

namespace Gatehouse

/-- An HTTP response. -/
structure Response where
  status : Nat
  headers : Headers := []
  body : Bytes := []
  deriving DecidableEq, Repr, Inhabited

namespace Response

def jsonType : Bytes := utf8 "application/json"

/-- A response with a JSON body. -/
def ofJson (status : Nat) (body : Json) : Response :=
  ⟨status, [("content-type", jsonType)], body.bytes⟩

/-- The response to a request that failed. -/
def ofFault (fault : Fault) : Response :=
  ofJson fault.status fault.body

/-- A failure of the gateway's own that no backend took part in. -/
def refusal (status : Nat) (code message : String) : Response :=
  ofJson status
    (Json.object [("httpcode", .ofNat status), ("code", .str code), ("message", .str message)])

def notFound (path : String) : Response :=
  refusal 404 "not_found" ("no route for " ++ path)

def methodNotAllowed (method : String) : Response :=
  refusal 405 "method_not_allowed" ("method " ++ method ++ " is not supported")

/-- The empty answer to a request for the options of a path. -/
def options : Response := ⟨204, [], []⟩

def health : Response :=
  ofJson 200 (Json.object [("status", .str "ok")])

end Response

end Gatehouse
