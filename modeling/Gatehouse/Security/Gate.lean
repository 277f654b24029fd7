import Gatehouse.Fault
import Gatehouse.Security.Signature
import Gatehouse.Wire.Envelope

/-!
The gate between clients and backends.

A gate checks what a client presents before its request is served, and stamps what the gateway sends
to a backend with a sign of its own. How it does both is its mode, which the configuration fixes. A
gate without a known mode lets nothing through.
-/

namespace Gatehouse

/-- What the configuration says about authentication and about TLS towards backends. -/
structure SecurityConfig where
  mode : Option String := none
  sign : Option String := none
  hmacSecret : Option String := none
  maxAgeSecs : Nat := 60
  caPath : Option String := none
  certPath : Option String := none
  keyPath : Option String := none
  mutualTls : Bool := false
  deriving DecidableEq, Repr, Inhabited

namespace SecurityConfig

/-- Whether backends are shown a client certificate: on demand, and whenever clients have to show
one themselves. -/
def dialsMutualTls (config : SecurityConfig) : Bool :=
  config.mutualTls || config.mode == some "mtls"

end SecurityConfig

/-- How requests are authenticated. -/
inductive Gate where
  /-- The client presents a shared text. -/
  | staticSign (sign : String)
  /-- The client presents a signature that is at most some seconds old. -/
  | hmac (secret : String) (maxAgeSecs : Nat)
  /-- The client has shown a certificate on the connection. -/
  | mutualTls
  | unconfigured
  deriving DecidableEq, Repr, Inhabited

namespace Gate

def ofConfig (config : SecurityConfig) : Gate :=
  match config.mode with
  | some "sign" => .staticSign (config.sign.getD "")
  | some "hmac" => .hmac (config.hmacSecret.getD "") config.maxAgeSecs
  | some "mtls" => .mutualTls
  | _ => .unconfigured

/-- The mode, without its secrets. -/
def describe : Gate → String
  | staticSign _ => "StaticSign"
  | hmac _ maxAgeSecs =>
    "Hmac \x7b max_age: " ++ Duration.text (Duration.ofSecs maxAgeSecs) ++ ", .. \x7d"
  | mutualTls => "MutualTls"
  | unconfigured => "Unconfigured"

/-- Check a request for a module at the time `now`, given what the client presented and how many
certificates it showed. -/
def authorize (gate : Gate) (module : String) (presented : Option String)
    (certificates : Option Nat) (now : Int) : Except Fault Unit :=
  match gate with
  | staticSign sign =>
    match presented with
    | some value =>
      if ! sign.isEmpty && value == sign then .ok () else .error (.unauthorized "invalid sign")
    | none => .error (.unauthorized "invalid sign")
  | hmac secret maxAgeSecs =>
    match presented with
    | some value =>
      if Signature.verify secret module value maxAgeSecs now then .ok ()
      else .error (.unauthorized "invalid or expired signature")
    | none => .error (.unauthorized "missing signature")
  | mutualTls =>
    match certificates with
    | some (_ + 1) => .ok ()
    | _ => .error (.unauthorized "client certificate required")
  | unconfigured => .error .securityNotConfigured

/-- The sign for a message to a module at the time `now`. -/
def signFor (gate : Gate) (module : String) (now : Int) : Option String :=
  match gate with
  | staticSign sign => some sign
  | hmac secret _ => some (Signature.present secret module now)
  | mutualTls => none
  | unconfigured => none

/-- Put the gateway's sign on a message, in place of any other. -/
def stamp (gate : Gate) (now : Int) (envelope : Envelope) : Envelope :=
  { envelope with sign := gate.signFor (envelope.module.getD "") now }

end Gate

end Gatehouse
