import Gatehouse.Digest.Hmac
import Gatehouse.Text.Hex
import Gatehouse.Text.Numeral

/-!
Signatures that bind a module name to a moment.

The signature for a module at a time is the HMAC-SHA256 of `module:time` in hexadecimal, and what a
caller presents is `signature:time`. Both times are whole seconds. The presented time may be spelled
with a plus or with leading zeros; the signature is always over its canonical numeral.
-/

namespace Gatehouse.Signature

/-- The text that is signed. -/
def subject (module : String) (time : Int) : List Char :=
  module.toList ++ ':' :: Numeral.intDigits time

/-- The bytes of the signature. -/
def mac (secret module : String) (time : Int) : Bytes :=
  Hmac.mac (utf8 secret) (utf8 (String.ofList (subject module time)))

/-- The signature for a module at a time. -/
def sign (secret module : String) (time : Int) : String :=
  Hex.text (mac secret module time)

/-- What a caller presents: the signature and the time it is for. -/
def present (secret module : String) (time : Int) : String :=
  sign secret module time ++ ":" ++ Numeral.intText time

/-- Split a text at its last colon. -/
def splitLastColon (cs : List Char) : Option (List Char × List Char) :=
  let after := (cs.reverse.takeWhile (· != ':')).reverse
  match cs.reverse.dropWhile (· != ':') with
  | _ :: before => some (before.reverse, after)
  | [] => none

/-- Whether `now` and `time` are at most `maxAge` seconds apart. The distance is taken in words of
64 bits: it stays at the ends of their range, and `maxAge` is read as such a word. -/
def isCurrent (maxAge : Nat) (now time : Int) : Bool :=
  let limit := Numeral.wrapInt64 maxAge
  let age := Numeral.clampInt64 (now - time)
  ! (age > limit) && ! (age < Numeral.wrapInt64 (-limit))

/-- Whether a presented text is a signature for the module at a time close to `now`. -/
def verify (secret module presented : String) (maxAge : Nat) (now : Int) : Bool :=
  if secret.isEmpty then false
  else
    match splitLastColon presented.toList with
    | none => false
    | some (signature, time) =>
      match Numeral.int64? time with
      | none => false
      | some time =>
        isCurrent maxAge now time && Hex.decode signature == some (mac secret module time)

end Gatehouse.Signature
