import Gatehouse.Config.Basic
import Gatehouse.Net.Address

/-!
What makes a configuration unfit for use, although every setting has the right type.

`Config.problems` lists all problems in a fixed order; a configuration without any is valid. A mode
of authentication that nobody knows is no problem here: such a gate lets nothing through.
-/

namespace Gatehouse.Config

/-- One problem of a configuration. -/
inductive Problem where
  | bindAddress (address : String)
  | notPositive (setting : String)
  | emptyAddress (service : String)
  | invalidPort (service port : String)
  | missingCoordinator (service : String)
  | evictionInterval (secs : Nat)
  | multiplier
  | missingSecret (mode setting : String)
  | incompleteMutualTls
  | missingSessionService
  deriving DecidableEq, Repr, Inhabited

def Problem.message : Problem → String
  | bindAddress address => "listener.bind_address `" ++ address ++ "` is not a socket address"
  | notPositive setting => setting ++ " must be greater than zero"
  | emptyAddress service => "service `" ++ service ++ "` has an empty host or port"
  | invalidPort service port =>
    "service `" ++ service ++ "` has a non-numeric port `" ++ port ++ "`"
  | missingCoordinator service =>
    "coordinator service `" ++ service ++ "` is missing from [services]"
  | evictionInterval secs =>
    "pool.eviction_interval_secs must be between 60 and 600, got " ++ Numeral.natText secs
  | multiplier => "retries.multiplier must be at least 1.0"
  | missingSecret mode setting => "security mode `" ++ mode ++ "` requires " ++ setting
  | incompleteMutualTls =>
    "mutual TLS to backends (security.mutual_tls or mode \"mtls\") requires " ++
      "ca_path, cert_path and key_path"
  | missingSessionService => "session.service must be set when sessions are enabled"

/-- A problem that is there if a condition holds. -/
def Problem.onlyIf (problem : Problem) (condition : Bool) : List Problem :=
  if condition then [problem] else []

/-- The settings that must not be zero. -/
def positives (config : Config) : List (String × Nat) :=
  [("timeouts.connect_secs", config.timeouts.connectSecs),
    ("timeouts.call_secs", config.timeouts.callSecs),
    ("timeouts.stream_secs", config.timeouts.streamSecs),
    ("timeouts.coordinator_secs", config.timeouts.coordinatorSecs),
    ("registry.ttl_secs", config.registry.ttlSecs),
    ("registry.refresh_interval_secs", config.registry.refreshIntervalSecs),
    ("registry.sweep_interval_secs", config.registry.sweepIntervalSecs),
    ("pool.ttl_secs", config.pool.ttlSecs),
    ("retries.max_attempts", config.retries.maxAttempts),
    ("upload.chunk_size", config.upload.chunkSize)]

/-- A port number of 16 bits, as text. -/
def portNumber? (port : String) : Option Nat :=
  Numeral.natBelow? 65536 port.toList

def serviceProblems (name : String) (service : Service) : List Problem :=
  if service.host.isEmpty || service.port.isEmpty then [.emptyAddress name]
  else (Problem.invalidPort name service.port).onlyIf (portNumber? service.port).isNone

def isBlankSecret (secret : Option String) : Bool :=
  (secret.getD "").isEmpty

def securityProblems (security : SecurityConfig) : List Problem :=
  match security.mode with
  | some "sign" =>
    (Problem.missingSecret "sign" "security.sign").onlyIf (isBlankSecret security.sign)
  | some "hmac" =>
    (Problem.missingSecret "hmac" "security.hmac_secret").onlyIf
        (isBlankSecret security.hmacSecret) ++
      (Problem.notPositive "security.max_age_secs").onlyIf (security.maxAgeSecs == 0)
  | _ => []

/-- All problems of a configuration. -/
def problems (config : Config) : List Problem :=
  (Problem.bindAddress config.listener.bindAddress).onlyIf
      (Net.socketAddress? config.listener.bindAddress).isNone ++
  config.positives.flatMap
      (fun (setting, value) => (Problem.notPositive setting).onlyIf (value == 0)) ++
  config.services.entries.flatMap (fun (name, service) => serviceProblems name service) ++
  (Problem.missingCoordinator config.registry.coordinatorService).onlyIf
      (config.registry.mode == .coordinator &&
        ! config.services.contains config.registry.coordinatorService) ++
  (Problem.evictionInterval config.pool.evictionIntervalSecs).onlyIf
      (config.pool.evictionIntervalSecs < 60 || 600 < config.pool.evictionIntervalSecs) ++
  Problem.multiplier.onlyIf (config.retries.multiplier.lt (Double.ofNat 1)) ++
  securityProblems config.security ++
  Problem.incompleteMutualTls.onlyIf
      (config.security.dialsMutualTls && (config.security.caPath.isNone ||
        config.security.certPath.isNone || config.security.keyPath.isNone)) ++
  (Problem.notPositive "rate_limit.idle_sweep_secs").onlyIf
      (config.rateLimit.enabled && config.rateLimit.idleSweepSecs == 0) ++
  Problem.missingSessionService.onlyIf (config.session.enabled && config.session.service.isEmpty)

/-- Whether a configuration may be put to use. -/
def Valid (config : Config) : Prop :=
  config.problems = []

instance (config : Config) : Decidable config.Valid :=
  inferInstanceAs (Decidable (config.problems = []))

end Gatehouse.Config
