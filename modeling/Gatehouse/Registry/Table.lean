import Gatehouse.Config.Basic
import Gatehouse.Fault
import Gatehouse.Registry.Location

/-!
The table of services in the configuration.

A service is found under its exact name, or under that name with every dash as an underscore. A row
without a host or a port gives no address.
-/

namespace Gatehouse

/-- Rows by service. -/
abbrev ServiceTable := Dict Config.Service

namespace ServiceTable

def underscored (service : String) : String :=
  String.ofList (service.toList.map fun c => if c = '-' then '_' else c)

/-- The row of a service. -/
def row? (table : ServiceTable) (service : String) : Option Config.Service :=
  match table.get? service with
  | some row => some row
  | none => if service.toList.contains '-' then table.get? (underscored service) else none

/-- The location of a service, as found now. -/
def lookup (table : ServiceTable) (service : String) (now : Nat) : Except Fault Location :=
  match table.row? service with
  | none => .error (.unavailable service "not in service table")
  | some row =>
    if row.host.isEmpty || row.port.isEmpty then
      .error (.unavailable service "empty host or port")
    else .ok ⟨row.host, row.port, false, now⟩

/-- How long a call to a service may take, if the row says so. -/
def timeout? (table : ServiceTable) (service : String) : Option Nat :=
  (table.row? service).bind fun row => row.timeoutSecs.map Duration.ofSecs

/-- How long an upload to a service may take, if the row says so. -/
def streamTimeout? (table : ServiceTable) (service : String) : Option Nat :=
  (table.row? service).bind fun row => row.streamTimeoutSecs.map Duration.ofSecs

end ServiceTable

end Gatehouse
