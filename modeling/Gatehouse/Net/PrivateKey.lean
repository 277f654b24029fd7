import Gatehouse.Net.Certificate

/-!
Private keys: the forms in which they are written, and the public keys that go with them.

A key of its own form has the numbers of its kind; a key that is wrapped has a name of its algorithm
in front. A key on a curve may tell the public key that goes with it; the arithmetic by which it
follows from the private one is left to the handshake.
-/

namespace Gatehouse

namespace PrivateKey

/-- How a key is written. -/
inductive Form where
  /-- The numbers of an RSA key. -/
  | rsa
  /-- The number of a key on a curve. -/
  | curve
  /-- Either of them, or another one, behind the name of its algorithm. -/
  | wrapped
  deriving DecidableEq, Repr

/-- The form of a key by its first bytes: a sequence that starts with a version, and the next value
if it is a sequence. -/
def form? : Bytes → Option Form
  | 0x30 :: n :: rest =>
    match (if n < 0x80 then rest else rest.drop (n.toNat - 0x80)) with
    | 0x02 :: 0x01 :: version :: rest =>
      if rest.head? = some 0x30 then some .wrapped
      else if version = 0 then some .rsa
      else if version = 1 then some .curve
      else none
    | _ => none
  | _ => none

/-! ## Algorithms -/

/-- The algorithm of RSA keys. -/
def rsaAlgorithm : Bytes :=
  [0x06, 0x09, 0x2A, 0x86, 0x48, 0x86, 0xF7, 0x0D, 0x01, 0x01, 0x01, 0x05, 0x00]

/-- The algorithm of keys on a curve, in front of the name of the curve. -/
def curveAlgorithm : Bytes := [0x06, 0x07, 0x2A, 0x86, 0x48, 0xCE, 0x3D, 0x02, 0x01]

/-- The curves that are known, P-256, P-384 and P-521: their names, and how many bytes a coordinate
has. -/
def curves : List (Bytes × Nat) := [
  ([0x06, 0x08, 0x2A, 0x86, 0x48, 0xCE, 0x3D, 0x03, 0x01, 0x07], 32),
  ([0x06, 0x05, 0x2B, 0x81, 0x04, 0x00, 0x22], 48),
  ([0x06, 0x05, 0x2B, 0x81, 0x04, 0x00, 0x23], 66)]

/-- The algorithm of Ed25519 keys, which are 32 bytes long. -/
def ed25519Algorithm : Bytes := [0x06, 0x03, 0x2B, 0x65, 0x70]

/-! ## Public keys -/

/-- What a private key tells about the public key that goes with it: its algorithm, and it may be
its bits. -/
structure Counterpart where
  algorithm : Bytes
  bits : Option Bytes
  deriving DecidableEq, Repr

/-- Whether this is said of a key as certificates have it: its algorithm and then its bits. -/
def Counterpart.holds (told : Counterpart) (key : Bytes) : Bool :=
  let algorithm := Der.encode Der.sequence told.algorithm
  match told.bits with
  | some bits => key == algorithm ++ Der.encode Der.bitString (0 :: bits)
  | none => algorithm.isPrefixOf key

/-- The public key of an RSA key, whose modulus has 2048 to 8192 bits. -/
def ofRsa? (bytes : Bytes) : Option Counterpart :=
  match Der.sequence? bytes with
  | some (⟨0x02, [0]⟩ :: ⟨0x02, modulus⟩ :: ⟨0x02, exponent⟩ :: rest) =>
    let size := (modulus.dropWhile (· == 0)).length
    if rest.length = 6 && rest.all (·.tag == Der.integer) && 256 ≤ size && size ≤ 1024 then
      let numbers := Der.encode Der.integer modulus ++ Der.encode Der.integer exponent
      some ⟨rsaAlgorithm, some (Der.encode Der.sequence numbers)⟩
    else none
  | _ => none

/-- The public key of a key on a curve, which it names itself or is known to be on. A public key is
a point with two coordinates. -/
def ofCurve? (known : Option Bytes) (bytes : Bytes) : Option Counterpart :=
  match Der.sequence? bytes with
  | some (⟨0x02, [1]⟩ :: ⟨0x04, _⟩ :: rest) =>
    let (named, rest) : Option Bytes × List Der.Item :=
      match rest with
      | ⟨0xA0, name⟩ :: rest => (some name, rest)
      | _ => (none, rest)
    match named.or known with
    | none => none
    | some name =>
      if known.all (· == name) then
        match curves.lookup name, rest with
        | some _, [] => some ⟨curveAlgorithm ++ name, none⟩
        | some size, [⟨0xA1, told⟩] =>
          match (Der.content? Der.bitString told).bind Der.wholeBits? with
          | some point =>
            if point.head? = some 4 && point.length = 2 * size + 1 then
              some ⟨curveAlgorithm ++ name, some point⟩
            else none
          | none => none
        | _, _ => none
      else none
  | _ => none

/-- The public key of a key behind the name of its algorithm. -/
def ofWrapped? (bytes : Bytes) : Option Counterpart :=
  match Der.sequence? bytes with
  | some (⟨0x02, [version]⟩ :: ⟨0x30, algorithm⟩ :: ⟨0x04, key⟩ :: _) =>
    if version > 1 then none
    else if algorithm = rsaAlgorithm then ofRsa? key
    else if algorithm = ed25519Algorithm then
      if (Der.content? Der.octetString key).any (·.length == 32) then some ⟨ed25519Algorithm, none⟩
      else none
    else if curveAlgorithm.isPrefixOf algorithm then
      ofCurve? (some (algorithm.drop curveAlgorithm.length)) key
    else none
  | _ => none

/-- The public key of a key of this form; nothing for a key that cannot be used. -/
def counterpart? (form : Form) (bytes : Bytes) : Option Counterpart :=
  match form with
  | .rsa => ofRsa? bytes
  | .curve => ofCurve? none bytes
  | .wrapped => ofWrapped? bytes

/-- Whether a private key can be used with a certificate: it tells nothing else about its public key
than the certificate. -/
def fits (form : Form) (bytes : Bytes) (certificate : Certificate) : Bool :=
  (counterpart? form bytes).any fun told => told.holds certificate.key

end PrivateKey

end Gatehouse
