import Gatehouse.Config.Basic
import Gatehouse.Net.Tls
import Gatehouse.Registry.Table
import Gatehouse.Retry.Policy

/-!
How services are called: with which certificates, how often, for how long, and in chunks of what
size.
-/

namespace Gatehouse

/-- How long calls and uploads may take, unless the service itself has another setting. -/
structure CallTimeouts where
  unary : Nat := Duration.ofSecs 5
  stream : Nat := Duration.ofSecs 120
  deriving DecidableEq, Repr, Inhabited

def CallTimeouts.ofConfig (config : Config.Timeouts) : CallTimeouts where
  unary := Duration.ofSecs config.callSecs
  stream := Duration.ofSecs config.streamSecs

/-- What calls are made with. -/
structure Caller (α : Type) where
  tls : Net.TlsSettings := {}
  retry : RetryPolicy α
  timeouts : CallTimeouts := {}
  chunkSize : Nat

namespace Caller

def ofConfig (config : Config) : Caller Double where
  tls := .ofConfig config.security
  retry := .ofLimits config.retries.maxAttempts
    { initial := Duration.ofMillis config.retries.initialBackoffMs
      max := Duration.ofMillis config.retries.maxBackoffMs
      multiplier := config.retries.multiplier }
  timeouts := .ofConfig config.timeouts
  chunkSize := config.upload.chunkSize

/-- How long a call to a service may take. -/
def callTimeout {α : Type} (caller : Caller α) (table : ServiceTable) (service : String) : Nat :=
  (table.timeout? service).getD caller.timeouts.unary

/-- How long an upload to a service may take. -/
def streamTimeout {α : Type} (caller : Caller α) (table : ServiceTable) (service : String) : Nat :=
  (table.streamTimeout? service).getD caller.timeouts.stream

end Caller

end Gatehouse
