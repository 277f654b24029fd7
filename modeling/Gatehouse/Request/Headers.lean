import Gatehouse.Text.Blank
import Gatehouse.Text.Bytes

/-!
The header fields of a request or an answer.

Names are in lower case and may repeat. A value is a string of bytes; it can be read as text if it
has only printable ASCII characters, blanks and tabs.
-/

namespace Gatehouse

/-- Header fields in their order. -/
abbrev Headers := List (String × Bytes)

namespace Headers

/-- The lower-case form of a name. -/
def lower (name : String) : String :=
  String.ofList (name.toList.map Char.toLower)

/-- The fields with their names in lower case. -/
def ofList (fields : List (String × Bytes)) : Headers :=
  fields.map fun field => (lower field.1, field.2)

/-- The first value of a name. -/
def get? (headers : Headers) (name : String) : Option Bytes :=
  headers.lookup name

/-- The last value of a name. -/
def last? (headers : Headers) (name : String) : Option Bytes :=
  headers.reverse.lookup name

/-- Whether a byte may stand in a value that is read as text. -/
def isVisible (b : UInt8) : Bool :=
  (0x20 ≤ b && b < 0x7F) || b == 0x09

/-- A value as text. -/
def visible? (value : Bytes) : Option String :=
  if value.all isVisible then some (String.ofList (value.map fun b => Char.ofNat b.toNat)) else none

/-- The text of the first value of a name. -/
def raw? (headers : Headers) (name : String) : Option String :=
  (headers.get? name).bind visible?

/-- The text of the first value of a name, without the white space at its ends, unless that leaves
nothing. -/
def text? (headers : Headers) (name : String) : Option String :=
  ((headers.raw? name).map Text.trim).filter (! ·.isEmpty)

/-- Whether bytes may be the value of a field: control characters may not, tabs apart. -/
def isValue (value : Bytes) : Bool :=
  value.all fun b => (0x20 ≤ b && b != 0x7F) || b == 0x09

/-- The bytes of a text that may be the value of a field. -/
def value? (text : String) : Option Bytes :=
  if isValue (utf8 text) then some (utf8 text) else none

/-- Give a field a value, in place of all it had. -/
def set (headers : Headers) (name : String) (value : Bytes) : Headers :=
  headers.filter (·.1 ≠ name) ++ [(name, value)]

end Headers

end Gatehouse
