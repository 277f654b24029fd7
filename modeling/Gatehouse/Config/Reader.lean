import Gatehouse.Config.Basic
import Gatehouse.Toml.Parser

/-!
Reading a configuration from a TOML value.

A section is a table whose keys name its settings; keys that name none are left alone. It may also
be an array of the settings in order. A setting that is not there has its default, and one of the
wrong type spoils the whole configuration.
-/

namespace Gatehouse.Config

/-! ## Single values -/

def text? : Toml → Option String
  | .string s => some s
  | _ => none

def flag? : Toml → Option Bool
  | .boolean b => some b
  | _ => none

/-- A number that is not negative. -/
def nat? : Toml → Option Nat
  | .integer i => if 0 ≤ i then some i.toNat else none
  | _ => none

/-- A number of 32 bits. -/
def word? (value : Toml) : Option Nat :=
  (nat? value).filter (· < 0x100000000)

def double? : Toml → Option Double
  | .float x => some x
  | .integer i => some (Double.nearest (i < 0) i.natAbs 1)
  | _ => none

/-- A port, as a number or as text. -/
def port? : Toml → Option String
  | .string s => some s
  | .integer i => if 0 ≤ i then some (Numeral.natText i.toNat) else none
  | _ => none

/-- Whether a value has nothing in it, as the value of a choice must. -/
def isHollow : Toml → Bool
  | .array [] => true
  | .tables [] => true
  | .table _ [] => true
  | _ => false

/-- One of several words: the word alone, or a table with the word for its only key. -/
def choice? {α : Type} (words : List (String × α)) : Toml → Option α
  | .string s => words.lookup s
  | .table _ [(key, value)] => if isHollow value then words.lookup key else none
  | _ => none

/-! ## Sections -/

/-- The settings of a section, by position and name. -/
abbrev Settings := Nat → String → Option Toml

/-- The settings of a value that can be a section. A date counts as a section without settings. -/
def settings? : Toml → Option Settings
  | .table _ entries => some fun _ name => Entries.get? name entries
  | .array elements => some fun position _ => elements[position]?
  | .tables elements => some fun position _ => elements[position]?
  | .moment => some fun _ _ => none
  | _ => none

/-- A setting with a default. -/
def Settings.get {α : Type} (s : Settings) (position : Nat) (name : String)
    (read : Toml → Option α) (default : α) : Option α :=
  match s position name with
  | some value => read value
  | none => some default

/-- A setting that may be absent. -/
def Settings.get? {α : Type} (s : Settings) (position : Nat) (name : String)
    (read : Toml → Option α) : Option (Option α) :=
  s.get position name (fun value => (read value).map some) none

/-- A setting that has to be there. -/
def Settings.need {α : Type} (s : Settings) (position : Nat) (name : String)
    (read : Toml → Option α) : Option α :=
  (s position name).bind read

def tls? (value : Toml) : Option Tls := do
  let s ← settings? value
  let certPath ← s.need 0 "cert_path" text?
  let keyPath ← s.need 1 "key_path" text?
  let clientCaPath ← s.get? 2 "client_ca_path" text?
  some { certPath, keyPath, clientCaPath }

def listener? (value : Toml) : Option Listener := do
  let s ← settings? value
  let default : Listener := {}
  let bindAddress ← s.get 0 "bind_address" text? default.bindAddress
  let tls ← s.get? 1 "tls" tls?
  let maxConnections ← s.get 2 "max_connections" nat? default.maxConnections
  some { bindAddress, tls, maxConnections }

def timeouts? (value : Toml) : Option Timeouts := do
  let s ← settings? value
  let default : Timeouts := {}
  let requestSecs ← s.get 0 "request_secs" nat? default.requestSecs
  let connectSecs ← s.get 1 "connect_secs" nat? default.connectSecs
  let callSecs ← s.get 2 "call_secs" nat? default.callSecs
  let streamSecs ← s.get 3 "stream_secs" nat? default.streamSecs
  let coordinatorSecs ← s.get 4 "coordinator_secs" nat? default.coordinatorSecs
  some { requestSecs, connectSecs, callSecs, streamSecs, coordinatorSecs }

def source? : Toml → Option Source :=
  choice? [("static", .static), ("coordinator", .coordinator)]

def registry? (value : Toml) : Option Registry := do
  let s ← settings? value
  let default : Registry := {}
  let mode ← s.get 0 "mode" source? default.mode
  let coordinatorService ← s.get 1 "coordinator_service" text? default.coordinatorService
  let ttlSecs ← s.get 2 "ttl_secs" nat? default.ttlSecs
  let refreshIntervalSecs ← s.get 3 "refresh_interval_secs" nat? default.refreshIntervalSecs
  let sweepIntervalSecs ← s.get 4 "sweep_interval_secs" nat? default.sweepIntervalSecs
  let purgeAfterSecs ← s.get 5 "purge_after_secs" nat? default.purgeAfterSecs
  some { mode, coordinatorService, ttlSecs, refreshIntervalSecs, sweepIntervalSecs, purgeAfterSecs }

def service? (value : Toml) : Option Service := do
  let s ← settings? value
  let host ← s.need 0 "host" text?
  let port ← s.need 1 "port" port?
  let timeoutSecs ← s.get? 2 "timeout_secs" nat?
  let streamTimeoutSecs ← s.get? 3 "stream_timeout_secs" nat?
  some { host, port, timeoutSecs, streamTimeoutSecs }

/-- The table of services; only a table can be one. -/
def services? : Toml → Option (Dict Service)
  | .table _ entries => do
    let services ← entries.mapM fun (name, value) => (service? value).map fun s => (name, s)
    some (Dict.ofList services)
  | _ => none

def pool? (value : Toml) : Option Pool := do
  let s ← settings? value
  let default : Pool := {}
  let ttlSecs ← s.get 0 "ttl_secs" nat? default.ttlSecs
  let evictionIntervalSecs ← s.get 1 "eviction_interval_secs" nat? default.evictionIntervalSecs
  let keepaliveIntervalSecs ← s.get 2 "keepalive_interval_secs" nat? default.keepaliveIntervalSecs
  let keepaliveTimeoutSecs ← s.get 3 "keepalive_timeout_secs" nat? default.keepaliveTimeoutSecs
  some { ttlSecs, evictionIntervalSecs, keepaliveIntervalSecs, keepaliveTimeoutSecs }

def retries? (value : Toml) : Option Retries := do
  let s ← settings? value
  let default : Retries := {}
  let maxAttempts ← s.get 0 "max_attempts" word? default.maxAttempts
  let initialBackoffMs ← s.get 1 "initial_backoff_ms" nat? default.initialBackoffMs
  let maxBackoffMs ← s.get 2 "max_backoff_ms" nat? default.maxBackoffMs
  let multiplier ← s.get 3 "multiplier" double? default.multiplier
  some { maxAttempts, initialBackoffMs, maxBackoffMs, multiplier }

def security? (value : Toml) : Option SecurityConfig := do
  let s ← settings? value
  let default : SecurityConfig := {}
  let mode ← s.get? 0 "mode" text?
  let sign ← s.get? 1 "sign" text?
  let hmacSecret ← s.get? 2 "hmac_secret" text?
  let maxAgeSecs ← s.get 3 "max_age_secs" nat? default.maxAgeSecs
  let caPath ← s.get? 4 "ca_path" text?
  let certPath ← s.get? 5 "cert_path" text?
  let keyPath ← s.get? 6 "key_path" text?
  let mutualTls ← s.get 7 "mutual_tls" flag? default.mutualTls
  some { mode, sign, hmacSecret, maxAgeSecs, caPath, certPath, keyPath, mutualTls }

def session? (value : Toml) : Option Session := do
  let s ← settings? value
  let default : Session := {}
  let enabled ← s.get 0 "enabled" flag? default.enabled
  let service ← s.get 1 "service" text? default.service
  some { enabled, service }

def upload? (value : Toml) : Option Upload := do
  let s ← settings? value
  let default : Upload := {}
  let chunkSize ← s.get 0 "chunk_size" nat? default.chunkSize
  let defaultFilename ← s.get 1 "default_filename" text? default.defaultFilename
  let maxBodyBytes ← s.get 2 "max_body_bytes" nat? default.maxBodyBytes
  some { chunkSize, defaultFilename, maxBodyBytes }

def rateLimit? (value : Toml) : Option RateLimit := do
  let s ← settings? value
  let default : RateLimit := {}
  let enabled ← s.get 0 "enabled" flag? default.enabled
  let requestsPerSecond ← s.get 1 "requests_per_second" word? default.requestsPerSecond
  let burstSize ← s.get 2 "burst_size" word? default.burstSize
  let idleSweepSecs ← s.get 3 "idle_sweep_secs" nat? default.idleSweepSecs
  some { enabled, requestsPerSecond, burstSize, idleSweepSecs }

def logFormat? : Toml → Option LogFormat :=
  choice? [("pretty", .pretty), ("json", .json)]

def observability? (value : Toml) : Option Observability := do
  let s ← settings? value
  let default : Observability := {}
  let logLevel ← s.get 0 "log_level" text? default.logLevel
  let logFormat ← s.get 1 "log_format" logFormat? default.logFormat
  let metricsEnabled ← s.get 2 "metrics_enabled" flag? default.metricsEnabled
  let metricsAddress ← s.get 3 "metrics_address" text? default.metricsAddress
  some { logLevel, logFormat, metricsEnabled, metricsAddress }

/-- The configuration that a document holds. -/
def ofToml? (document : Toml) : Option Config := do
  let s ← settings? document
  let listener ← s.get 0 "listener" listener? {}
  let timeouts ← s.get 1 "timeouts" timeouts? {}
  let registry ← s.get 2 "registry" registry? {}
  let services ← s.get 3 "services" services? ∅
  let pool ← s.get 4 "pool" pool? {}
  let retries ← s.get 5 "retries" retries? {}
  let security ← s.get 6 "security" security? {}
  let session ← s.get 7 "session" session? {}
  let upload ← s.get 8 "upload" upload? {}
  let rateLimit ← s.get 9 "rate_limit" rateLimit? {}
  let observability ← s.get 10 "observability" observability? {}
  some
    { listener, timeouts, registry, services, pool, retries, security, session, upload, rateLimit,
      observability }

end Gatehouse.Config
