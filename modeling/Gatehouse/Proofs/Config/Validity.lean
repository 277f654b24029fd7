import Gatehouse.Config.Problem
import Gatehouse.Proofs.Dict

/-!
What a valid configuration is.

A configuration is checked by listing what is wrong with it. `Config.Fit` says of its settings, one
by one, what they have to be; a configuration is valid exactly if it is fit in that sense.
-/

namespace Gatehouse

namespace Config

variable {config : Config}

theorem onlyIf_eq_nil_iff {problem : Problem} {condition : Bool} :
    problem.onlyIf condition = [] ↔ condition = false := by
  cases condition with
  | false => exact iff_of_true rfl rfl
  | true => exact iff_of_false (List.cons_ne_nil _ _) nofun

theorem isBlankSecret_eq_false_iff {secret : Option String} :
    isBlankSecret secret = false ↔ secret.getD "" ≠ "" :=
  String.isEmpty_eq_false_iff

/-! ## Services -/

/-- A row with an address: a host, and a port of 16 bits. -/
structure Service.Addressed (row : Service) : Prop where
  host : row.host ≠ ""
  port : ∃ number, portNumber? row.port = some number

/-- A port that is a number is not empty. -/
theorem ne_empty_of_portNumber? {port : String} {number : Nat}
    (numeral : portNumber? port = some number) : port ≠ "" := by
  rintro rfl
  exact nomatch numeral

/-- Neither the host nor the port of such a row is empty. -/
theorem Service.Addressed.full {row : Service} (addressed : row.Addressed) :
    (row.host.isEmpty || row.port.isEmpty) = false := by
  obtain ⟨number, numeral⟩ := addressed.port
  rw [Bool.or_eq_false_iff, String.isEmpty_eq_false_iff, String.isEmpty_eq_false_iff]
  exact ⟨addressed.host, ne_empty_of_portNumber? numeral⟩

theorem serviceProblems_eq_nil_iff {name : String} {row : Service} :
    serviceProblems name row = [] ↔ row.Addressed := by
  unfold serviceProblems
  split
  · rename_i blank
    exact iff_of_false (List.cons_ne_nil _ _) fun addressed =>
      Bool.false_ne_true (addressed.full.symm.trans blank)
  · rename_i full
    rw [onlyIf_eq_nil_iff, Option.isNone_eq_false_iff, Option.isSome_iff_exists]
    have host : row.host ≠ "" := fun none => full (by rw [none]; rfl)
    exact ⟨fun numeral => ⟨host, numeral⟩, Service.Addressed.port⟩

/-! ## Secrets -/

/-- What a mode of authentication needs is there. -/
structure SecretsGiven (security : SecurityConfig) : Prop where
  sign : security.mode = some "sign" → security.sign.getD "" ≠ ""
  hmac : security.mode = some "hmac" → security.hmacSecret.getD "" ≠ "" ∧ 0 < security.maxAgeSecs

theorem securityProblems_eq_nil_iff {security : SecurityConfig} :
    securityProblems security = [] ↔ SecretsGiven security := by
  unfold securityProblems
  split
  · rename_i mode
    rw [onlyIf_eq_nil_iff, isBlankSecret_eq_false_iff]
    refine ⟨fun given => ⟨fun _ => given, fun other => ?_⟩, fun given => given.sign mode⟩
    exact absurd (mode.symm.trans other) (by decide)
  · rename_i mode
    rw [List.append_eq_nil_iff, onlyIf_eq_nil_iff, onlyIf_eq_nil_iff, isBlankSecret_eq_false_iff,
      beq_eq_false_iff_ne, ← Nat.pos_iff_ne_zero]
    refine ⟨fun given => ⟨fun other => ?_, fun _ => given⟩, fun given => given.hmac mode⟩
    exact absurd (mode.symm.trans other) (by decide)
  · rename_i notSign notHmac
    exact iff_of_true rfl ⟨fun mode => absurd mode notSign, fun mode => absurd mode notHmac⟩

/-! ## Configurations -/

/-- What makes a configuration fit for use, setting by setting. -/
structure Fit (config : Config) : Prop where
  bindAddress : ∃ address, Net.socketAddress? config.listener.bindAddress = some address
  positives : ∀ setting ∈ config.positives, 0 < setting.2
  services : ∀ name row, config.services.get? name = some row → row.Addressed
  coordinator : config.registry.mode = .coordinator →
    ∃ row, config.services.get? config.registry.coordinatorService = some row
  evictionInterval : 60 ≤ config.pool.evictionIntervalSecs ∧ config.pool.evictionIntervalSecs ≤ 600
  multiplier : config.retries.multiplier.lt (Double.ofNat 1) = false
  secrets : SecretsGiven config.security
  mutualTls : config.security.dialsMutualTls = true → (∃ path, config.security.caPath = some path) ∧
    (∃ path, config.security.certPath = some path) ∧ ∃ path, config.security.keyPath = some path
  idleSweep : config.rateLimit.enabled = true → 0 < config.rateLimit.idleSweepSecs
  session : config.session.enabled = true → config.session.service ≠ ""

/-- A configuration is valid exactly if it is fit for use. -/
theorem valid_iff_fit : config.Valid ↔ config.Fit := by
  have listed (name : String) : config.services.contains name = true ↔
      ∃ row, config.services.get? name = some row := Option.isSome_iff_exists
  have rows : (∀ row ∈ config.services.entries, row.2.Addressed) ↔
      ∀ name row, config.services.get? name = some row → row.Addressed := by
    simp only [Prod.forall, Dict.mem_entries_iff]
  -- Each part of the list of problems is empty for a reason of its own.
  simp only [Valid, problems, List.append_eq_nil_iff, List.flatMap_eq_nil_iff, onlyIf_eq_nil_iff,
    securityProblems_eq_nil_iff, serviceProblems_eq_nil_iff, rows, Bool.and_eq_false_imp,
    Bool.or_eq_false_iff, Bool.not_eq_false', beq_iff_eq, beq_eq_false_iff_ne,
    decide_eq_false_iff_not, Nat.not_lt, ← Nat.pos_iff_ne_zero, String.isEmpty_eq_false_iff, listed,
    Option.isNone_eq_false_iff, Option.isSome_iff_exists, and_assoc]
  constructor
  · rintro ⟨bindAddress, positives, services, coordinator, least, greatest, multiplier, secrets,
      mutualTls, idleSweep, session⟩
    exact { bindAddress, positives, services, coordinator, evictionInterval := ⟨least, greatest⟩,
            multiplier, secrets, mutualTls, idleSweep, session }
  · intro fit
    exact ⟨fit.bindAddress, fit.positives, fit.services, fit.coordinator, fit.evictionInterval.1,
      fit.evictionInterval.2, fit.multiplier, fit.secrets, fit.mutualTls, fit.idleSweep,
      fit.session⟩

theorem Valid.fit (valid : config.Valid) : config.Fit :=
  valid_iff_fit.mp valid

end Config

end Gatehouse
