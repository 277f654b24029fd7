import Gatehouse.Fault
import Gatehouse.Text.Blank
import Gatehouse.Wire.Argument

/-!
The arguments that a request brings along, as a backend receives them.

They come from the query, each value a string, or from a body that is a JSON object, each member as
it is.
-/

namespace Gatehouse.Request

/-- The arguments of a query. A key without a value is no argument. -/
def queryArgs (query : Dict String) : Dict Any :=
  argsOfMembers ((query.entries.filter fun e => ! e.2.isEmpty).map fun e => (e.1, Json.str e.2))

/-- The arguments of a body. A blank body has none. -/
def jsonArgs (body : Bytes) : Except Fault (Dict Any) :=
  if body.all Text.isAsciiBlank then .ok ∅
  else
    match Json.ofBytes? body with
    | some (.obj members) => .ok (argsOfMembers members)
    | some _ => .error (.badRequest "JSON body must be an object")
    | none => .error (.badRequest "invalid JSON body")

end Gatehouse.Request
