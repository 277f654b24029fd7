import Gatehouse.Digest.Sha256

/-!
The keyed hash HMAC-SHA256.
-/

namespace Gatehouse.Hmac

/-- A key as one block of 64 bytes: its digest if it is longer, and zeros at its end. -/
def blockKey (key : Bytes) : Bytes :=
  let short := if key.length > 64 then Sha256.digest key else key
  short ++ List.replicate (64 - short.length) 0

/-- The HMAC-SHA256 of a message under a key. -/
def mac (key message : Bytes) : Bytes :=
  let block := blockKey key
  let inner := Sha256.digest (block.map (· ^^^ 0x36) ++ message)
  Sha256.digest (block.map (· ^^^ 0x5c) ++ inner)

theorem length_mac (key message : Bytes) : (mac key message).length = 32 :=
  Sha256.length_digest _

end Gatehouse.Hmac
