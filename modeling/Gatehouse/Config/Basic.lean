import Gatehouse.Dict
import Gatehouse.Number.Double
import Gatehouse.Security.Gate

/-!
The configuration of a gateway, with its defaults.

Lengths of time are whole seconds unless a name says otherwise.
-/

namespace Gatehouse

namespace Config

/-- The certificate that the listener shows. With a bundle of client authorities, it asks for
certificates too. -/
structure Tls where
  certPath : String
  keyPath : String
  clientCaPath : Option String := none
  deriving DecidableEq, Repr, Inhabited

structure Listener where
  bindAddress : String := "0.0.0.0:8080"
  tls : Option Tls := none
  maxConnections : Nat := 10000
  deriving DecidableEq, Repr, Inhabited

structure Timeouts where
  requestSecs : Nat := 180
  connectSecs : Nat := 5
  callSecs : Nat := 5
  streamSecs : Nat := 120
  coordinatorSecs : Nat := 3
  deriving DecidableEq, Repr, Inhabited

/-- Where the addresses of services come from. -/
inductive Source where
  /-- From the table in the configuration. -/
  | static
  /-- From the coordinator, itself found in that table. -/
  | coordinator
  deriving DecidableEq, Repr, Inhabited

def Source.word : Source → String
  | static => "static"
  | coordinator => "coordinator"

structure Registry where
  mode : Source := .static
  coordinatorService : String := "masterservice"
  ttlSecs : Nat := 60
  refreshIntervalSecs : Nat := 30
  sweepIntervalSecs : Nat := 60
  purgeAfterSecs : Nat := 600
  deriving DecidableEq, Repr, Inhabited

/-- The address of a service, and its own timeouts. -/
structure Service where
  host : String
  port : String
  timeoutSecs : Option Nat := none
  streamTimeoutSecs : Option Nat := none
  deriving DecidableEq, Repr, Inhabited

structure Pool where
  ttlSecs : Nat := 300
  evictionIntervalSecs : Nat := 300
  keepaliveIntervalSecs : Nat := 30
  keepaliveTimeoutSecs : Nat := 10
  deriving DecidableEq, Repr, Inhabited

/-- 1.6, the growth of delays unless the configuration names another. -/
def defaultMultiplier : Double := Double.nearest false 16 10

structure Retries where
  maxAttempts : Nat := 4
  initialBackoffMs : Nat := 200
  maxBackoffMs : Nat := 2000
  multiplier : Double := defaultMultiplier
  deriving DecidableEq, Repr, Inhabited

structure Session where
  enabled : Bool := false
  service : String := "sessionservice"
  deriving DecidableEq, Repr, Inhabited

structure Upload where
  chunkSize : Nat := 65536
  defaultFilename : String := "upload.bin"
  maxBodyBytes : Nat := 536870912
  deriving DecidableEq, Repr, Inhabited

structure RateLimit where
  enabled : Bool := false
  requestsPerSecond : Nat := 100
  burstSize : Nat := 50
  idleSweepSecs : Nat := 60
  deriving DecidableEq, Repr, Inhabited

inductive LogFormat where
  | pretty
  | json
  deriving DecidableEq, Repr, Inhabited

structure Observability where
  logLevel : String := "info"
  logFormat : LogFormat := .pretty
  metricsEnabled : Bool := true
  metricsAddress : String := "0.0.0.0:9090"
  deriving DecidableEq, Repr, Inhabited

end Config

/-- The configuration of a gateway. -/
structure Config where
  listener : Config.Listener := {}
  timeouts : Config.Timeouts := {}
  registry : Config.Registry := {}
  services : Dict Config.Service := ∅
  pool : Config.Pool := {}
  retries : Config.Retries := {}
  security : SecurityConfig := {}
  session : Config.Session := {}
  upload : Config.Upload := {}
  rateLimit : Config.RateLimit := {}
  observability : Config.Observability := {}
  deriving DecidableEq, Repr, Inhabited

end Gatehouse
