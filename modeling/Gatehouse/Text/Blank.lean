/-!
White space in text and at the edges of text.

Two sets are used by the gateway: the Unicode property `White_Space`, for text that came from a
header, and the five blanks of ASCII, for request bodies. `trimBy` removes the members of such a
set from both ends of a text and leaves everything between untouched.
-/

namespace Gatehouse.Text

/-- The code points with the Unicode property `White_Space`. -/
def isBlank (c : Char) : Bool :=
  let n := c.toNat
  (9 ≤ n && n ≤ 13) || n == 0x20 || n == 0x85 || n == 0xA0 || n == 0x1680 ||
    (0x2000 ≤ n && n ≤ 0x200A) || n == 0x2028 || n == 0x2029 || n == 0x202F || n == 0x205F ||
    n == 0x3000

/-- Space, tab, line feed, form feed and carriage return. -/
def isAsciiBlank (b : UInt8) : Bool :=
  b == 0x20 || b == 0x09 || b == 0x0A || b == 0x0C || b == 0x0D

/-- What is left of a list once the members of a set are taken off its end. -/
def trimEndBy {α : Type} (p : α → Bool) (xs : List α) : List α :=
  (xs.reverse.dropWhile p).reverse

/-- What is left of a list once the members of a set are taken off both ends. -/
def trimBy {α : Type} (p : α → Bool) (xs : List α) : List α :=
  trimEndBy p (xs.dropWhile p)

/-- A text without the white space at its ends. -/
def trim (s : String) : String :=
  String.ofList (trimBy isBlank s.toList)

end Gatehouse.Text
