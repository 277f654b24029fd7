import Gatehouse.Json.Basic
import Gatehouse.Time.Duration

/-!
What can go wrong while a request is served.

A `Fault` names the cause. From it follow the HTTP status, a short code for programs, a message for
people, and the JSON body that carries all three.
-/

namespace Gatehouse

/-- The status of a finished backend call. -/
inductive RpcCode where
  | ok
  | cancelled
  | unknown
  | invalidArgument
  | deadlineExceeded
  | notFound
  | alreadyExists
  | permissionDenied
  | resourceExhausted
  | failedPrecondition
  | aborted
  | outOfRange
  | unimplemented
  | internal
  | unavailable
  | dataLoss
  | unauthenticated
  deriving DecidableEq, Repr, Inhabited

namespace RpcCode

def name : RpcCode → String
  | ok => "Ok"
  | cancelled => "Cancelled"
  | unknown => "Unknown"
  | invalidArgument => "InvalidArgument"
  | deadlineExceeded => "DeadlineExceeded"
  | notFound => "NotFound"
  | alreadyExists => "AlreadyExists"
  | permissionDenied => "PermissionDenied"
  | resourceExhausted => "ResourceExhausted"
  | failedPrecondition => "FailedPrecondition"
  | aborted => "Aborted"
  | outOfRange => "OutOfRange"
  | unimplemented => "Unimplemented"
  | internal => "Internal"
  | unavailable => "Unavailable"
  | dataLoss => "DataLoss"
  | unauthenticated => "Unauthenticated"

end RpcCode

/-- The causes for which a request fails. -/
inductive Fault where
  /-- No address is known for the service. -/
  | unavailable (service reason : String)
  /-- The backend at an address could not be reached. -/
  | connection (address reason : String)
  /-- The backend answered a call with an error. -/
  | call (service : String) (code : RpcCode) (text : String)
  /-- The backend did not answer in time. -/
  | timeout (service : String) (after : Nat)
  | unauthorized (reason : String)
  /-- No way of authenticating requests is configured. -/
  | securityNotConfigured
  /-- An upload broke off. -/
  | upload (reason : String)
  | badRequest (reason : String)
  | forbidden (reason : String)
  /-- The coordinator did not acknowledge a heartbeat. -/
  | heartbeat (reason : String)
  deriving DecidableEq, Repr, Inhabited

namespace Fault

/-- The HTTP status of the answer. -/
def status : Fault → Nat
  | unavailable .. => 503
  | connection .. => 502
  | call .. => 502
  | timeout .. => 504
  | unauthorized _ => 401
  | securityNotConfigured => 500
  | upload _ => 500
  | badRequest _ => 400
  | forbidden _ => 403
  | heartbeat _ => 500

/-- The word for the cause that programs read. -/
def code : Fault → String
  | unavailable .. => "service_unavailable"
  | connection .. => "connection_failed"
  | call .. => "call_failed"
  | timeout .. => "call_timeout"
  | unauthorized _ => "unauthorized"
  | securityNotConfigured => "security_not_configured"
  | upload _ => "upload_failed"
  | badRequest _ => "bad_request"
  | forbidden _ => "read_only"
  | heartbeat _ => "heartbeat_failed"

/-- The sentence that people read. -/
def message : Fault → String
  | unavailable service reason => "service unavailable: " ++ service ++ " (" ++ reason ++ ")"
  | connection address reason => "connection to " ++ address ++ " failed: " ++ reason
  | call service code text => "call to " ++ service ++ " failed: " ++ code.name ++ ": " ++ text
  | timeout service after => "call to " ++ service ++ " timed out after " ++ Duration.text after
  | unauthorized reason => "unauthorized: " ++ reason
  | securityNotConfigured => "security mode not configured"
  | upload reason => "upload failed: " ++ reason
  | badRequest reason => "bad request: " ++ reason
  | forbidden reason => "forbidden: " ++ reason
  | heartbeat reason => "heartbeat failed: " ++ reason

/-- The body of the answer. -/
def body (fault : Fault) : Json :=
  Json.object [("httpcode", .ofNat fault.status), ("code", .str fault.code),
    ("message", .str fault.message)]

end Fault

end Gatehouse
