import Gatehouse.Config.File
import Gatehouse.Gateway.Background
import Gatehouse.Proofs.Gateway.Reloading
import Gatehouse.Proofs.Security.Acceptance
import Gatehouse.Proofs.Toml.Integers
import Gatehouse.Registry.Schedule

/-!
What can be relied on in everything that is built from a configuration.

A configuration is checked once, where it is read; the gateway and its server do not check it again.
They rely on it nonetheless: a task cannot start without time between its turns, a gate without a
secret lets nobody through, a mutual connection needs certificates, and a service needs an address.
`Preconditions` collects all that, in terms of what is built, and the theorem at the end says that
every configuration that is read fulfils it.

One thing is not checked but comes with the text. The maximal age of a signature is compared in
words of 64 bits, where an age beyond them would turn negative and no signature would be current. An
age that is written in a document is such a word.
-/

namespace Gatehouse

/-! ## What is read -/

namespace Config

variable {value : Toml} {s : Settings}

theorem validated_eq_ok_iff {config checked : Config} :
    config.validated = .ok checked ↔ checked = config ∧ config.Fit := by
  rw [← valid_iff_fit]
  unfold validated
  split
  · rename_i none
    rw [Except.ok.injEq, eq_comm]
    exact ⟨fun same => ⟨same, none⟩, And.left⟩
  · rename_i problems some
    exact iff_of_false nofun fun ⟨_, valid⟩ => some valid

/-- A text is taken for a configuration exactly if it can be read and what is read, with the secrets
from the environment, is fit for use. -/
theorem parse_eq_ok_iff {text : String} {secrets : Secrets} {config : Config} :
    parse text secrets = .ok config ↔
      ∃ written, (Toml.parse? text).bind ofToml? = some written ∧
        config = written.withSecrets secrets ∧ config.Fit := by
  unfold parse
  split
  · rename_i unreadable
    exact iff_of_false nofun fun ⟨_, read, _⟩ => nomatch unreadable.symm.trans read
  · rename_i written read
    rw [validated_eq_ok_iff]
    constructor
    · rintro ⟨rfl, fit⟩
      exact ⟨written, read, rfl, fit⟩
    · rintro ⟨other, readToo, rfl, fit⟩
      cases read.symm.trans readToo
      exact ⟨rfl, fit⟩

theorem settings?_fits (fits : value.Fits) (read : settings? value = some s) {position : Nat}
    {name : String} {setting : Toml} (given : s position name = some setting) : setting.Fits := by
  unfold settings? at read
  split at read
  · cases read
    exact fits.get? given
  · cases read
    cases fits with
    | array each => exact each _ (List.mem_of_getElem? given)
  · cases read
    cases fits with
    | tables each => exact each _ (List.mem_of_getElem? given)
  · cases read
    exact nomatch given
  · exact nomatch read

/-- A setting is the default or what is read from a value, whose integers are words of 64 bits. -/
theorem get_cases {α : Type} {read : Toml → Option α} {default setting : α} {position : Nat}
    {name : String} (fits : value.Fits) (section? : settings? value = some s)
    (got : s.get position name read default = some setting) :
    setting = default ∨ ∃ held : Toml, held.Fits ∧ read held = some setting := by
  unfold Settings.get at got
  split at got
  · rename_i held given
    exact Or.inr ⟨held, settings?_fits fits section? given, got⟩
  · cases got
    exact Or.inl rfl

theorem nat?_le {n : Nat} (fits : value.Fits) (read : nat? value = some n) :
    n ≤ 0x7FFFFFFFFFFFFFFF := by
  unfold nat? at read
  split at read
  · split at read
    · rename_i i nonnegative
      cases read
      cases fits with
      | integer fits =>
        simp only [Numeral.fitsInt64, Bool.and_eq_true, decide_eq_true_eq] at fits
        omega
    · cases read
  · cases read

theorem security?_maxAge {security : SecurityConfig} (fits : value.Fits)
    (read : security? value = some security) : security.maxAgeSecs ≤ 0x7FFFFFFFFFFFFFFF := by
  simp only [security?, Option.bind_eq_bind, Option.bind_eq_some_iff, Option.some.injEq] at read
  obtain ⟨s, section?, _, _, _, _, _, _, maxAge, got, _, _, _, _, _, _, _, _, rfl⟩ := read
  change maxAge ≤ 0x7FFFFFFFFFFFFFFF
  rcases get_cases fits section? got with default | ⟨held, fits, number⟩
  · rw [default]
    decide
  · exact nat?_le fits number

theorem ofToml?_maxAge {config : Config} (fits : value.Fits) (read : ofToml? value = some config) :
    config.security.maxAgeSecs ≤ 0x7FFFFFFFFFFFFFFF := by
  simp only [ofToml?, Option.bind_eq_bind, Option.bind_eq_some_iff, Option.some.injEq] at read
  obtain ⟨s, section?, _, _, _, _, _, _, _, _, _, _, _, _, security, got, _, _, _, _, _, _, _, _,
    rfl⟩ := read
  change security.maxAgeSecs ≤ 0x7FFFFFFFFFFFFFFF
  rcases get_cases fits section? got with default | ⟨held, fits, security⟩
  · rw [default]
    decide
  · exact security?_maxAge fits security

/-- The maximal age of a signature is a word of 64 bits in every configuration that is read. Secrets
from the environment do not change it. -/
theorem maxAge_of_parse {text : String} {secrets : Secrets} {config : Config}
    (parsed : parse text secrets = .ok config) :
    config.security.maxAgeSecs ≤ 0x7FFFFFFFFFFFFFFF := by
  obtain ⟨written, read, rfl, -⟩ := parse_eq_ok_iff.mp parsed
  obtain ⟨document, lines, settings⟩ := Option.bind_eq_some_iff.mp read
  have bounded := ofToml?_maxAge (Toml.parse?_fits lines) settings
  exact bounded

end Config

/-! ## Gates -/

namespace Gate

theorem ofConfig_staticSign {security : SecurityConfig} {sign : String}
    (mode : ofConfig security = .staticSign sign) :
    security.mode = some "sign" ∧ sign = security.sign.getD "" := by
  unfold ofConfig at mode
  split at mode
  · rename_i isSign
    cases mode
    exact ⟨isSign, rfl⟩
  all_goals exact nomatch mode

theorem ofConfig_hmac {security : SecurityConfig} {secret : String} {maxAge : Nat}
    (mode : ofConfig security = .hmac secret maxAge) :
    security.mode = some "hmac" ∧ secret = security.hmacSecret.getD "" ∧
      maxAge = security.maxAgeSecs := by
  unfold ofConfig at mode
  split at mode
  · exact nomatch mode
  · rename_i isHmac
    cases mode
    exact ⟨isHmac, rfl, rfl⟩
  all_goals exact nomatch mode

/-- There is something to present for a module at a time that the gate lets pass. -/
def Opens (gate : Gate) (module : String) (now : Int64) : Prop :=
  ∃ presented, ∀ certificates,
    gate.authorize module (some presented) certificates now.toInt = .ok ()

theorem opens_staticSign {sign : String} (hasSign : sign ≠ "") (module : String) (now : Int64) :
    (staticSign sign).Opens module now := by
  refine ⟨sign, fun certificates => ?_⟩
  simp only [authorize, String.isEmpty_eq_false_iff.mpr hasSign, Bool.not_false, BEq.rfl,
    Bool.and_self, if_true]

/-- What is signed now is current now. -/
theorem opens_hmac {secret : String} {maxAge : Nat} (hasSecret : secret ≠ "")
    (bounded : maxAge ≤ 0x7FFFFFFFFFFFFFFF) (module : String) (now : Int64) :
    (hmac secret maxAge).Opens module now := by
  refine ⟨Signature.present secret module now.toInt, fun certificates => ?_⟩
  have near : (now.toInt - now.toInt).natAbs ≤ maxAge := by
    rw [Int.sub_self]
    exact Nat.zero_le maxAge
  have verified := Signature.verify_present module (String.isEmpty_eq_false_iff.mpr hasSecret)
    bounded (Numeral.fitsInt64_toInt now) near
  simp only [authorize, verified, if_true]

end Gate

/-! ## Certificates for backends -/

namespace Net

/-- Of two steps that fail together, one fails. -/
theorem error_of_bind {α β : Type} {first : Except Fault α} {next : α → Except Fault β}
    {fault : Fault} (failed : first.bind next = .error fault) :
    first = .error fault ∨ ∃ value, first = .ok value ∧ next value = .error fault := by
  cases first with
  | error other =>
    cases failed
    exact Or.inl rfl
  | ok value => exact Or.inr ⟨value, rfl, failed⟩

theorem readFor_error {files : Files} {host path : String} {fault : Fault}
    (failed : readFor files host path = .error fault) :
    ∃ message, fault = .connection host ("reading " ++ path ++ ": " ++ message) := by
  unfold readFor at failed
  split at failed
  · exact nomatch failed
  · cases failed
    exact ⟨_, rfl⟩

/-- What a mutual connection fails with if something for it is not configured. -/
def mutualTlsLacks : List String :=
  ["mutual TLS requires a CA certificate", "mutual TLS requires a client certificate and key"]

/-- A file that cannot be read is told from something that is not configured. -/
theorem reading_notMem_lacks {path message : String} :
    "reading " ++ path ++ ": " ++ message ∉ mutualTlsLacks := by
  intro lacks
  have first : ("reading " ++ path ++ ": " ++ message).toList.head? = some 'r' := by
    simp only [String.toList_append, List.append_assoc]
    rfl
  have others : ∀ text ∈ mutualTlsLacks, text.toList.head? = some 'm' := by decide
  exact absurd (first.symm.trans (others _ lacks)) (by decide)

namespace TlsSettings

variable {settings : TlsSettings} {files : Files} {host : String} {fault : Fault}

/-- All that a mutual connection needs is configured. -/
structure Complete (settings : TlsSettings) : Prop where
  authority : ∃ path, settings.caPath = some path
  certificate : ∃ path, settings.certPath = some path
  key : ∃ path, settings.keyPath = some path

theorem authority_error (complete : settings.showsCertificate = true → settings.Complete)
    (failed : settings.authority files host = .error fault) :
    ∃ path, readFor files host path = .error fault := by
  unfold authority at failed
  split at failed
  · rename_i path configured
    rcases error_of_bind failed with unread | ⟨bytes, -, never⟩
    · exact ⟨path, unread⟩
    · exact nomatch never
  · rename_i none
    split at failed
    · rename_i shows
      obtain ⟨path, configured⟩ := (complete shows).authority
      exact nomatch none.symm.trans configured
    · exact nomatch failed

theorem identity_error (complete : settings.showsCertificate = true → settings.Complete)
    (failed : settings.identity files host = .error fault) :
    ∃ path, readFor files host path = .error fault := by
  unfold identity at failed
  split at failed
  · rename_i shows
    obtain ⟨certPath, certificate⟩ := (complete shows).certificate
    obtain ⟨keyPath, key⟩ := (complete shows).key
    rw [certificate, key] at failed
    rcases error_of_bind failed with unread | ⟨cert, -, failed⟩
    · exact ⟨certPath, unread⟩
    rcases error_of_bind failed with unread | ⟨key, -, never⟩
    · exact ⟨keyPath, unread⟩
    · exact nomatch never
  · exact nomatch failed

/-- Where all is configured, only reading a file can fail. -/
theorem credentials_error (complete : settings.showsCertificate = true → settings.Complete)
    (failed : settings.credentials files host = .error fault) :
    ∃ path, readFor files host path = .error fault := by
  unfold credentials at failed
  split at failed
  · rcases error_of_bind failed with untrusted | ⟨authority, -, failed⟩
    · exact authority_error complete untrusted
    rcases error_of_bind failed with unknown | ⟨identity, -, never⟩
    · exact identity_error complete unknown
    · exact nomatch never
  · exact nomatch failed

end TlsSettings

end Net

/-! ## Everything that is built -/

theorem Ticker.start?_of_pos {period : Nat} (positive : 0 < period) (now : Nat) :
    ∃ ticker, Ticker.start? now period = some ticker := by
  rw [start?, dif_pos positive]
  exact ⟨_, rfl⟩

theorem Duration.ofSecs_pos {secs : Nat} (positive : 0 < secs) : 0 < ofSecs secs :=
  Nat.mul_pos positive (by decide)

/-- A service that is found in the table at all times, at a host and at a port of 16 bits. -/
def ServiceTable.Locates (table : ServiceTable) (service : String) : Prop :=
  ∀ now, ∃ location, table.lookup service now = .ok location ∧ location.host ≠ "" ∧
    ∃ number, Config.portNumber? location.port = some number

theorem ServiceTable.locates_of_get? {config : Config} (fit : config.Fit) {name : String}
    {row : Config.Service} (listed : config.services.get? name = some row) :
    Locates config.services name := by
  intro now
  have found : row? config.services name = some row := by
    rw [row?, listed]
  have addressed := fit.services name row listed
  exact ⟨_, lookup_addressed found addressed now, addressed.host, addressed.port⟩

namespace Gateway

/-- What the gateway and the server that are built from a configuration rely on. -/
structure Preconditions (config : Config) : Prop where
  /-- The tasks beside the gateway can start, at any time. -/
  tasks : ∀ task period, Task.period? (build config) task = some period →
    ∀ now, ∃ ticker, Ticker.start? now period = some ticker
  /-- So the registry can be put on a clock with those of them that are its own. -/
  schedule : ∀ answers, ∃ schedule,
    Schedule.start? (build config).registry answers true = some schedule
  /-- So can the task that drops full buckets, if there is a limiter. -/
  buckets : ∀ files period,
    ((build config).server config files).sweepPeriod? config.rateLimit = some period →
      ∀ now, ∃ ticker, Ticker.start? now period = some ticker
  /-- A gate of a shared text has one, and it can be passed. -/
  sign : ∀ sign, (build config).gate = .staticSign sign →
    sign ≠ "" ∧ ∀ module now, (build config).gate.Opens module now
  /-- A gate of signatures has a secret and a maximal age, and it can be passed. -/
  signatures : ∀ secret maxAge, (build config).gate = .hmac secret maxAge →
    secret ≠ "" ∧ 0 < maxAge ∧ ∀ module now, (build config).gate.Opens module now
  /-- No connection to a backend fails for something that is not configured. -/
  certificates : ∀ files host message, message ∈ Net.mutualTlsLacks →
    (Net.TlsSettings.ofConfig config.security).credentials files host ≠
      .error (.connection host message)
  /-- Every service of the configuration has an address. -/
  services : ∀ name row, config.services.get? name = some row →
    (build config).registry.table.Locates name
  /-- So has the coordinator, if it is asked. -/
  coordinator : ∀ name, (build config).registry.mode = .coordinator name →
    (build config).registry.table.Locates name

variable {config : Config}

theorem tasks_start (fit : config.Fit) (task : Task) {period : Nat}
    (regular : task.period? (build config) = some period) (now : Nat) :
    ∃ ticker, Ticker.start? now period = some ticker := by
  refine Ticker.start?_of_pos ?_ now
  cases task with
  | refresher =>
    cases regular
    refine Duration.ofSecs_pos (fit.positives ("registry.refresh_interval_secs", _) ?_)
    simp only [Config.positives, List.mem_cons, true_or, or_true]
  | sweeper =>
    cases regular
    refine Duration.ofSecs_pos (fit.positives ("registry.sweep_interval_secs", _) ?_)
    simp only [Config.positives, List.mem_cons, true_or, or_true]
  | evictor =>
    cases regular
    exact Duration.ofSecs_pos (Nat.lt_of_lt_of_le (by decide) fit.evictionInterval.1)
  | reloader => exact nomatch regular

theorem schedule_starts (fit : config.Fit) (answers : Registry.Answers) :
    ∃ schedule, Schedule.start? (build config).registry answers true = some schedule := by
  obtain ⟨refresh, refresher⟩ := tasks_start fit .refresher rfl 0
  obtain ⟨sweep, sweeper⟩ := tasks_start fit .sweeper rfl 0
  simp only [Schedule.start?, if_true, refresher, sweeper, Option.bind_eq_bind, Option.bind_some]
  exact ⟨_, rfl⟩

theorem buckets_start (fit : config.Fit) {files : Net.Files} {period : Nat}
    (limited : ((build config).server config files).sweepPeriod? config.rateLimit = some period)
    (now : Nat) : ∃ ticker, Ticker.start? now period = some ticker := by
  obtain ⟨limiter, there, rfl⟩ := Option.map_eq_some_iff.mp limited
  simp only [server, Server.ofConfig, Option.ite_none_right_eq_some] at there
  exact Ticker.start?_of_pos (Duration.ofSecs_pos (fit.idleSweep there.1)) now

theorem certificates_configured (fit : config.Fit) {files : Net.Files} {host message : String}
    (lacks : message ∈ Net.mutualTlsLacks) :
    (Net.TlsSettings.ofConfig config.security).credentials files host ≠
      .error (.connection host message) := by
  intro failed
  have complete (shows : (Net.TlsSettings.ofConfig config.security).showsCertificate = true) :
      (Net.TlsSettings.ofConfig config.security).Complete := by
    obtain ⟨authority, certificate, key⟩ := fit.mutualTls shows
    exact ⟨authority, certificate, key⟩
  obtain ⟨path, unread⟩ := Net.TlsSettings.credentials_error complete failed
  obtain ⟨reason, same⟩ := Net.readFor_error unread
  cases same
  exact Net.reading_notMem_lacks lacks

theorem coordinator_located (fit : config.Fit) {name : String}
    (asks : (build config).registry.mode = .coordinator name) :
    (build config).registry.table.Locates name := by
  have mode : Registry.Mode.ofConfig config = .coordinator name := asks
  unfold Registry.Mode.ofConfig at mode
  split at mode
  · exact nomatch mode
  · rename_i source
    cases mode
    obtain ⟨row, listed⟩ := fit.coordinator source
    exact ServiceTable.locates_of_get? fit listed

/-- Whatever text a configuration is read from, and whatever secrets come from the environment, what
is built from it has all that it relies on. -/
theorem preconditions_of_parse {text : String} {secrets : Config.Secrets}
    (parsed : Config.parse text secrets = .ok config) : Preconditions config := by
  obtain ⟨written, -, -, fit⟩ := Config.parse_eq_ok_iff.mp parsed
  have bounded := Config.maxAge_of_parse parsed
  constructor
  case tasks => exact fun task period regular now => tasks_start fit task regular now
  case schedule => exact schedule_starts fit
  case buckets => exact fun files period limited now => buckets_start fit limited now
  case sign =>
    intro sign gate
    obtain ⟨mode, rfl⟩ := Gate.ofConfig_staticSign gate
    have hasSign := fit.secrets.sign mode
    rw [gate]
    exact ⟨hasSign, Gate.opens_staticSign hasSign⟩
  case signatures =>
    intro secret maxAge gate
    obtain ⟨mode, rfl, rfl⟩ := Gate.ofConfig_hmac gate
    obtain ⟨hasSecret, positive⟩ := fit.secrets.hmac mode
    rw [gate]
    exact ⟨hasSecret, positive, Gate.opens_hmac hasSecret bounded⟩
  case certificates => exact fun files host message lacks => certificates_configured fit lacks
  case services => exact fun name row listed => ServiceTable.locates_of_get? fit listed
  case coordinator => exact fun name asks => coordinator_located fit asks

/-- With a secret from the environment this text is a configuration. Its gate takes signatures of
any age, and it has a limiter. -/
theorem preconditions_of_parse_environment :
    let text := "[security]\nmode = 'hmac'\nmax_age_secs = 0x7FFFFFFFFFFFFFFF\n" ++
      "[rate_limit]\nenabled = true"
    ∃ config, Config.parse text { hmacSecret := some "secret" } = .ok config ∧
      Preconditions config := by
  intro text
  have read : (Config.parse text { hmacSecret := some "secret" }).isOk = true := by
    decide +kernel
  cases parsed : Config.parse text { hmacSecret := some "secret" } with
  | error problem =>
    rw [parsed] at read
    exact nomatch read
  | ok config => exact ⟨config, rfl, preconditions_of_parse parsed⟩

end Gateway

end Gatehouse
