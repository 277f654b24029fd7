import Gatehouse.Net.Der

/-!
Certificates, as far as they have to be understood to be shown or trusted: their outer form, the
extensions that may not be passed over, and the public key.

Names, dates and signatures are left to the handshake.
-/

namespace Gatehouse

/-- What is known of a certificate. -/
structure Certificate where
  /-- The first form of certificates has no extensions, the third one may have some. -/
  version : Nat
  /-- The public key as it is written, behind the tag and the length. -/
  key : Bytes
  deriving DecidableEq, Repr

namespace Certificate

/-! ## Extensions -/

/-- An extension: its name, whether it may not be passed over, and its value. -/
structure Extension where
  name : Bytes
  critical : Bool
  value : Bytes
  deriving DecidableEq, Repr

/-- Read an extension from the content of the sequence that it is. -/
def Extension.ofContent? (content : Bytes) : Option Extension :=
  match Der.items? content with
  | some [⟨0x06, name⟩, ⟨0x04, value⟩] => some ⟨name, false, value⟩
  | some [⟨0x06, name⟩, ⟨0x01, [0x00]⟩, ⟨0x04, value⟩] => some ⟨name, false, value⟩
  | some [⟨0x06, name⟩, ⟨0x01, [0xFF]⟩, ⟨0x04, value⟩] => some ⟨name, true, value⟩
  | _ => none

/-- The name of the extension for the purposes of a key. -/
def keyUsage : Bytes := [0x55, 0x1D, 15]

/-- The extensions that are understood: purposes of the key, other names of the subject, basic
constraints, constraints of names, places of revocation lists, further purposes. -/
def understood : List Bytes :=
  [keyUsage, [0x55, 0x1D, 17], [0x55, 0x1D, 19], [0x55, 0x1D, 30], [0x55, 0x1D, 31],
    [0x55, 0x1D, 37]]

/-- Whether an extension does no harm: it is understood and has the form of its kind, or it may be
passed over. -/
def Extension.isFine (e : Extension) : Bool :=
  if understood.contains e.name then
    e.name == keyUsage || (Der.content? Der.sequence e.value).isSome
  else ! e.critical

/-- Whether these are the extensions of a certificate: at least one, all of them fine, and none that
is understood twice. -/
def areExtensions (content : Bytes) : Bool :=
  match (Der.sequence? content).bind fun items =>
      items.mapM fun item => if item.tag = Der.sequence then Extension.ofContent? item.content
        else none with
  | some (e :: es) =>
    let names := ((e :: es).map (·.name)).filter understood.contains
    (e :: es).all (·.isFine) && decide names.Nodup
  | _ => false

/-! ## Certificates -/

/-- Read what is signed: a version, a number, the algorithm of the signature, the issuer, the time
of validity, the subject, its key and extensions. -/
def ofSigned? (algorithm : Bytes) : List Der.Item → Option Certificate
  | ⟨0xA0, [0x02, 0x01, 0x02]⟩ :: ⟨0x02, _⟩ :: ⟨0x30, alg⟩ :: ⟨0x30, _⟩ :: ⟨0x30, _⟩ :: ⟨0x30, _⟩ ::
      ⟨0x30, key⟩ :: rest =>
    let fine : Bool :=
      match rest with
      | [] => true
      | [⟨0xA3, extensions⟩] => areExtensions extensions
      | _ => false
    if alg = algorithm && fine then some ⟨3, key⟩ else none
  | [⟨0x02, _⟩, ⟨0x30, _⟩, ⟨0x30, _⟩, ⟨0x30, _⟩, ⟨0x30, _⟩, ⟨0x30, key⟩] => some ⟨1, key⟩
  | _ => none

/-- Read a certificate: what is signed, the algorithm of the signature, and the signature. -/
def parse? (bytes : Bytes) : Option Certificate :=
  match Der.sequence? bytes with
  | some [⟨0x30, signed⟩, ⟨0x30, algorithm⟩, ⟨0x03, signature⟩] => do
    let items ← Der.items? signed
    let _ ← Der.wholeBits? signature
    ofSigned? algorithm items
  | _ => none

end Certificate

end Gatehouse
