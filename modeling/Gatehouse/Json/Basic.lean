import Gatehouse.Dict
import Gatehouse.Number.Double

/-!
JSON values.

The members of an object are kept in the order of their names, each name once. A number is an
integer of 64 bits, signed or not, or a double.
-/

namespace Gatehouse

/-- A number of a JSON text. -/
inductive JsonNumber where
  /-- An integer that fits a word of 64 bits, signed or unsigned. -/
  | int (value : Int)
  | double (value : Double)
  deriving DecidableEq, Repr, Inhabited

/-- A JSON value. -/
inductive Json where
  | null
  | bool (value : Bool)
  | num (value : JsonNumber)
  | str (value : String)
  | arr (elements : List Json)
  | obj (members : List (String × Json))
  deriving Repr, Inhabited, BEq

namespace Json

def ofNat (n : Nat) : Json := .num (.int n)

def ofInt (i : Int) : Json := .num (.int i)

/-- An object with these members; of two members of one name the later one stays. -/
def object (members : List (String × Json)) : Json :=
  .obj (Entries.ofList members)

/-- The string that a value is. -/
def asStr? : Json → Option String
  | .str s => some s
  | _ => none

/-- The integer that a value is, if a signed word of 64 bits holds it. -/
def asInt64? : Json → Option Int
  | .num (.int i) => if i < 0x8000000000000000 then some i else none
  | _ => none

end Json

end Gatehouse
