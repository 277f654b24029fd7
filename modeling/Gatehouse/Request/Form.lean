import Gatehouse.Dict
import Gatehouse.Text.Hex

/-!
Pairs in the form of a query: `application/x-www-form-urlencoded`.

Pieces between ampersands are pairs, split at their first equals sign. In each half a plus is a
blank and a percent sign with two hexadecimal digits is a byte; any other percent sign stands for
itself, and bytes that are not UTF-8 become U+FFFD.
-/

namespace Gatehouse.Request.Form

/-- The bytes that a half of a pair spells. -/
def decodeBytes : Bytes → Bytes
  | [] => []
  | 0x2B :: rest => 0x20 :: decodeBytes rest
  | 0x25 :: high :: low :: rest =>
    match Hex.value? (Char.ofNat high.toNat), Hex.value? (Char.ofNat low.toNat) with
    | some h, some l => UInt8.ofNat (h * 16 + l) :: decodeBytes rest
    | _, _ => 0x25 :: decodeBytes (high :: low :: rest)
  | b :: rest => b :: decodeBytes rest

/-- The text that a half of a pair spells. -/
def decode (half : Bytes) : String :=
  Bytes.lossyText (decodeBytes half)

/-- A piece as a name and a value. -/
def pair (piece : Bytes) : String × String :=
  let (name, rest) := piece.span (· != 0x3D)
  (decode name, decode (rest.drop 1))

/-- All pairs in their order; empty pieces are none. -/
def pairs (query : Bytes) : List (String × String) :=
  ((query.splitOn 0x26).filter (! ·.isEmpty)).map pair

/-- The values by their names; of two pairs with one name the later one counts. -/
def parse (query : String) : Dict String :=
  Dict.ofList (pairs (utf8 query))

end Gatehouse.Request.Form
