import Gatehouse.Json.Parser
import Gatehouse.Json.Printer
import Gatehouse.Wire.Any

/-!
JSON values as arguments of a message.

An argument is a byte string that holds compact JSON text. Reading a map of arguments drops the
values that are not of that kind.
-/

namespace Gatehouse

open Wire

namespace Any

/-- A JSON value as an argument. -/
def ofJson (value : Json) : Any :=
  pack bytesValueType (BytesValue.mk value.bytes)

/-- The JSON value that an argument holds. -/
def json? (any : Any) : Option Json := do
  let held : BytesValue ← unpack? bytesValueType any
  Json.ofBytes? held.value

end Any

/-- The members of an object as arguments. -/
def argsOfMembers (members : List (String × Json)) : Dict Any :=
  Dict.ofList (members.map fun m => (m.1, Any.ofJson m.2))

/-- The JSON values among the values of a map. -/
def membersOfArgs (args : Dict Any) : List (String × Json) :=
  args.entries.filterMap fun e => e.2.json?.map fun value => (e.1, value)

end Gatehouse
