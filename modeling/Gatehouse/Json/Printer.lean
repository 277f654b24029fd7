import Gatehouse.Json.Basic
import Gatehouse.Number.Shortest
import Gatehouse.Text.Bytes
import Gatehouse.Text.Hex

/-!
Compact JSON text: no white space, members in the order of their names, and no escape that is not
needed.
-/

namespace Gatehouse.Json

/-- A character inside a string: quotes, backslashes and control characters are escaped. -/
def escape (c : Char) : List Char :=
  if c = '"' then ['\\', '"']
  else if c = '\\' then ['\\', '\\']
  else if c = '\n' then ['\\', 'n']
  else if c = '\r' then ['\\', 'r']
  else if c = '\t' then ['\\', 't']
  else if c.toNat = 8 then ['\\', 'b']
  else if c.toNat = 12 then ['\\', 'f']
  else if c.toNat < 32 then
    ['\\', 'u', '0', '0', Hex.digit (c.toNat / 16), Hex.digit (c.toNat % 16)]
  else [c]

/-- A string between quotes. -/
def quoted (s : String) : List Char :=
  '"' :: (s.toList.flatMap escape ++ ['"'])

def numberChars : JsonNumber → List Char
  | .int i => Numeral.intDigits i
  | .double d => (Double.jsonLayout.text d).toList

mutual

/-- The characters of a value. -/
def chars : Json → List Char
  | .null => ['n', 'u', 'l', 'l']
  | .bool true => ['t', 'r', 'u', 'e']
  | .bool false => ['f', 'a', 'l', 's', 'e']
  | .num n => numberChars n
  | .str s => quoted s
  | .arr [] => ['[', ']']
  | .arr (first :: rest) => '[' :: (chars first ++ elementChars rest)
  | .obj [] => ['\x7b', '\x7d']
  | .obj ((name, value) :: rest) =>
    '\x7b' :: (quoted name ++ ':' :: (chars value ++ memberChars rest))

/-- The elements after the first one, up to the bracket that closes the array. -/
def elementChars : List Json → List Char
  | [] => [']']
  | value :: rest => ',' :: (chars value ++ elementChars rest)

/-- The members after the first one, up to the brace that closes the object. -/
def memberChars : List (String × Json) → List Char
  | [] => ['\x7d']
  | (name, value) :: rest => ',' :: (quoted name ++ ':' :: (chars value ++ memberChars rest))

end

/-- The compact text of a value. -/
def text (value : Json) : String :=
  String.ofList (chars value)

/-- The UTF-8 bytes of the compact text. -/
def bytes (value : Json) : Bytes :=
  utf8 value.text

end Gatehouse.Json
