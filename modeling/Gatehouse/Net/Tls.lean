import Gatehouse.Config.Basic
import Gatehouse.Fault
import Gatehouse.Net.Files
import Gatehouse.Net.Pem
import Gatehouse.Request.Uri

/-!
Certificates for connections.

Towards backends, the gateway speaks TLS if it knows an authority to trust or has to show a
certificate of its own. At its listener it shows a certificate, and asks for one if it is given the
authorities of its clients. The files are read here, and it is checked that the certificate at the
listener goes with the key; the rest of what certificates say is left to the handshake.
-/

namespace Gatehouse

namespace Net

/-! ## Towards backends -/

/-- Where the certificates for backends are. -/
structure TlsSettings where
  caPath : Option String := none
  certPath : Option String := none
  keyPath : Option String := none
  /-- Whether a certificate is shown. -/
  showsCertificate : Bool := false
  deriving DecidableEq, Repr, Inhabited

namespace TlsSettings

def ofConfig (config : SecurityConfig) : TlsSettings where
  caPath := config.caPath
  certPath := config.certPath
  keyPath := config.keyPath
  showsCertificate := config.dialsMutualTls

def plaintext : TlsSettings := {}

def usesTls (settings : TlsSettings) : Bool :=
  settings.showsCertificate || settings.caPath.isSome

end TlsSettings

/-- What a TLS connection is made with: the name to expect, the authority to trust, and the
certificate and key to show. -/
structure Credentials where
  domain : String
  authority : Option Bytes
  identity : Option (Bytes × Bytes)

/-- Read a file for a connection to a host. -/
def readFor (files : Files) (host path : String) : Except Fault Bytes :=
  match files path with
  | .ok bytes => .ok bytes
  | .error e => .error (.connection host ("reading " ++ path ++ ": " ++ e.message))

namespace TlsSettings

/-- The authority to trust. A mutual connection needs one. -/
def authority (settings : TlsSettings) (files : Files) (host : String) :
    Except Fault (Option Bytes) :=
  match settings.caPath with
  | some path => (readFor files host path).map some
  | none =>
    if settings.showsCertificate then
      .error (.connection host "mutual TLS requires a CA certificate")
    else .ok none

/-- The certificate and key to show. A mutual connection needs both. -/
def identity (settings : TlsSettings) (files : Files) (host : String) :
    Except Fault (Option (Bytes × Bytes)) :=
  if settings.showsCertificate then
    match settings.certPath, settings.keyPath with
    | some certPath, some keyPath => do
      let cert ← readFor files host certPath
      let key ← readFor files host keyPath
      .ok (some (cert, key))
    | _, _ => .error (.connection host "mutual TLS requires a client certificate and key")
  else .ok none

/-- What a connection to a host is made with; nothing for one without TLS. -/
def credentials (settings : TlsSettings) (files : Files) (host : String) :
    Except Fault (Option Credentials) :=
  if settings.usesTls then do
    let authority ← settings.authority files host
    let identity ← settings.identity files host
    .ok (some ⟨host, authority, identity⟩)
  else .ok none

/-- The address of a backend as a URI. -/
def target (settings : TlsSettings) (host port : String) : String :=
  (if settings.usesTls then "https" else "http") ++ "://" ++ host ++ ":" ++ port

/-- All that precedes a dial: an address that is a URI, and what the connection is made with. -/
def prepareDial (settings : TlsSettings) (files : Files) (host port : String) :
    Except Fault (Option Credentials) :=
  match Request.Uri.parse? (settings.target host port) with
  | none => .error (.connection (host ++ ":" ++ port) "invalid URI")
  | some _ => settings.credentials files host

end TlsSettings

/-! ## At the listener -/

/-- Why the listener has no certificate to show. -/
inductive ListenerFault where
  /-- A file that is named for a purpose is not there. -/
  | missing (purpose path : String)
  /-- A file cannot be read; its path may be told. -/
  | unreadable (path : Option String) (error : ReadError)
  /-- A file or what it holds is damaged. -/
  | malformed
  | noPrivateKey (path : String)
  /-- The certificate and key are of no use. -/
  | unusable
  deriving DecidableEq, Repr

/-- The kind of a fault, as input and output knows it. -/
def ListenerFault.kind : ListenerFault → String
  | missing .. | unreadable _ .notFound => "NotFound"
  | unreadable _ .isDirectory => "IsADirectory"
  | unreadable _ .notDirectory => "NotADirectory"
  | unreadable _ .nameTooLong => "InvalidFilename"
  | unreadable _ .zeroInName => "InvalidInput"
  | malformed | noPrivateKey _ => "InvalidData"
  | unusable => "Other"

/-- The message of a fault that names a file. -/
def ListenerFault.message? : ListenerFault → Option String
  | missing purpose path => some (purpose ++ " not found: " ++ path)
  | unreadable (some path) error =>
    some ("failed to read from file `" ++ path ++ "`: " ++ error.message)
  | noPrivateKey path => some ("no private key in " ++ path)
  | _ => none

/-- What the listener shows, and the authorities that its clients need a certificate of. -/
structure ListenerTls where
  chain : List Bytes
  key : Bytes
  clientAuthorities : Option (List Bytes)

def requireFile (files : Files) (purpose path : String) : Except ListenerFault Unit :=
  if files.exist path then .ok () else .error (.missing purpose path)

/-- Read a file; `named` says whether a failure tells its path. -/
def readFile (files : Files) (named : Bool) (path : String) : Except ListenerFault Bytes :=
  match files path with
  | .ok bytes => .ok bytes
  | .error e => .error (.unreadable (if named then some path else none) e)

/-- Whether a chain of certificates can be shown with a key: its first certificate goes with it. The
others are passed on as they are. -/
def canShow (chain : List Bytes) (form : PrivateKey.Form) (key : Bytes) : Bool :=
  match chain.head?.bind Certificate.parse? with
  | some certificate => certificate.version == 3 && PrivateKey.fits form key certificate
  | none => false

/-- Certificates and a key for a listener that asks for none. There has to be one key, whose form is
told by its bytes. -/
def loadPlain (files : Files) (config : Config.Tls) : Except ListenerFault ListenerTls := do
  let cert ← readFile files true config.certPath
  let key ← readFile files true config.keyPath
  match Pem.certificates? cert, Pem.privateKeys key with
  | none, _ => .error .malformed
  | some chain, [key] =>
    match PrivateKey.form? key with
    | some form => if canShow chain form key then .ok ⟨chain, key, none⟩ else .error .unusable
    | none => .error .unusable
  | some _, _ => .error .unusable

/-- Certificates and a key for a listener that asks for certificates of these authorities. The first
key counts, in the form of its label. -/
def loadMutual (files : Files) (config : Config.Tls) (caPath : String) :
    Except ListenerFault ListenerTls := do
  let cert ← readFile files false config.certPath
  let key ← readFile files false config.keyPath
  let ca ← readFile files false caPath
  match Pem.certificates? cert with
  | none => .error .malformed
  | some chain =>
    match Pem.privateKey? key with
    | none => .error .malformed
    | some none => .error (.noPrivateKey config.keyPath)
    | some (some (form, key)) =>
      match Pem.certificates? ca with
      | none => .error .malformed
      | some authorities =>
        let trusted := authorities.all fun ca => (Certificate.parse? ca).isSome
        if ! authorities.isEmpty && trusted && canShow chain form key then
          .ok ⟨chain, key, some authorities⟩
        else .error .malformed

/-- Load the certificates of the listener. All files have to be there before one is read. -/
def loadListenerTls (files : Files) (config : Config.Tls) : Except ListenerFault ListenerTls := do
  requireFile files "certificate file" config.certPath
  requireFile files "private key file" config.keyPath
  match config.clientCaPath with
  | none => loadPlain files config
  | some caPath =>
    requireFile files "client CA file" caPath
    loadMutual files config caPath

end Net

end Gatehouse
