import Gatehouse.Text.Bytes

/-!
Values with a tag and a length, as certificates and keys are made of them.

A value is a byte that tells its kind, the length of its content in as few bytes as possible, and
the content, which for a sequence is a row of values again. `Der.encode` writes a value and
`Der.next?` reads the first of a row.
-/

namespace Gatehouse

namespace Der

/-- A value. -/
structure Item where
  tag : UInt8
  content : Bytes
  deriving DecidableEq, Repr

/-! ## Tags -/

def integer : UInt8 := 0x02

def bitString : UInt8 := 0x03

def octetString : UInt8 := 0x04

def sequence : UInt8 := 0x30

/-! ## Writing -/

/-- The bytes of a number, without zeros in front. -/
def digits (n : Nat) : Bytes :=
  if _ : n = 0 then [] else digits (n / 256) ++ [UInt8.ofNat (n % 256)]
termination_by n
decreasing_by omega

/-- A length: in one byte if it is small, or else behind a byte that tells how many bytes it has. -/
def encodeLength (n : Nat) : Bytes :=
  if n < 0x80 then [UInt8.ofNat n] else UInt8.ofNat (0x80 + (digits n).length) :: digits n

/-- A value with this tag and content. -/
def encode (tag : UInt8) (content : Bytes) : Bytes :=
  tag :: encodeLength content.length ++ content

/-! ## Reading -/

/-- A length and what follows it. A length in more bytes than it needs is none, and neither is one
in more than four bytes. -/
def length? : Bytes → Option (Nat × Bytes)
  | [] => none
  | n :: rest =>
    if n < 0x80 then some (n.toNat, rest)
    else
      let width := n.toNat - 0x80
      let digits := rest.take width
      let length := digits.foldl (fun acc b => acc * 256 + b.toNat) 0
      if width > 4 || digits.length < width || length < 0x80 || digits.head? = some 0 then none
      else some (length, rest.drop width)

/-- The first value of a row, and those that follow. Tags have one byte. -/
def next? : Bytes → Option (Item × Bytes)
  | [] => none
  | tag :: rest => do
    let (length, rest) ← length? rest
    if tag &&& 0x1F == 0x1F || rest.length < length then none
    else some (⟨tag, rest.take length⟩, rest.drop length)

/-- The values of a row. `fuel` is at least the number of bytes. -/
def itemsFrom? : (fuel : Nat) → Bytes → Option (List Item)
  | _, [] => some []
  | 0, _ => none
  | fuel + 1, bytes => do
    let (item, rest) ← next? bytes
    let more ← itemsFrom? fuel rest
    some (item :: more)

/-- The values of a row. -/
def items? (bytes : Bytes) : Option (List Item) :=
  itemsFrom? bytes.length bytes

/-- The content of the one value that bytes are, if it has this tag. -/
def content? (tag : UInt8) (bytes : Bytes) : Option Bytes :=
  match next? bytes with
  | some (item, []) => if item.tag = tag then some item.content else none
  | _ => none

/-- The values in the one sequence that bytes are. -/
def sequence? (bytes : Bytes) : Option (List Item) :=
  (content? sequence bytes).bind items?

/-- The bytes of a string of bits, if it has whole bytes only. -/
def wholeBits? : Bytes → Option Bytes
  | 0 :: bytes => some bytes
  | _ => none

end Der

end Gatehouse
