import Gatehouse.Text.Bytes

/-!
The fields of a protobuf message as they stand on the wire.

A message is a row of fields, each a number with a payload of one of five kinds. `Field.encode`
writes a field and `Field.read` reads a whole row, with the groups in it as trees. What the numbers
mean is left to the messages: a row of fields can be read without knowing any of them.
-/

namespace Gatehouse.Wire

/-! ## Base-128 numbers -/

/-- A number in groups of seven bits, the lowest first, with the high bit set on all but the last.
-/
def varint (n : Nat) : Bytes :=
  if n < 128 then [UInt8.ofNat n] else UInt8.ofNat (n % 128 + 128) :: varint (n / 128)

/-- Read such a number from at most `limit` bytes. The tenth byte of ten may only hold one bit. -/
def readVarint : (limit : Nat) → Bytes → Option (Nat × Bytes)
  | 0, _ => none
  | _ + 1, [] => none
  | limit + 1, b :: rest =>
    if b.toNat < 128 then
      if limit = 0 ∧ 2 ≤ b.toNat then none else some (b.toNat, rest)
    else
      match readVarint limit rest with
      | some (n, rest) => some (b.toNat - 128 + 128 * n, rest)
      | none => none

/-- Read a number of 64 bits. -/
def varint? (bytes : Bytes) : Option (Nat × Bytes) :=
  readVarint 10 bytes

/-- How many bytes `varint` writes. -/
def varintSize (n : Nat) : Nat :=
  if n < 128 then 1 else 1 + varintSize (n / 128)

/-! ## Fields -/

/-- A field: its number and its payload. -/
inductive Field where
  /-- A number of 64 bits. -/
  | varint (number : Nat) (value : Nat)
  /-- Eight bytes. -/
  | fixed64 (number : Nat) (value : Bytes)
  /-- A string of bytes with its length in front. -/
  | bytes (number : Nat) (value : Bytes)
  /-- A row of fields between two marks. -/
  | group (number : Nat) (fields : List Field)
  /-- Four bytes. -/
  | fixed32 (number : Nat) (value : Bytes)
  deriving Repr, Inhabited

/-- The mark in front of a payload: the field's number and the kind of the payload. -/
def key (number kind : Nat) : Bytes :=
  varint (number * 8 + kind)

/-- Read such a mark. The number is not zero, and number and kind together fit 32 bits. -/
def key? (bytes : Bytes) : Option (Nat × Nat × Bytes) :=
  match varint? bytes with
  | some (n, rest) =>
    if 8 ≤ n ∧ n < 0x100000000 ∧ n % 8 ≤ 5 then some (n / 8, n % 8, rest) else none
  | none => none

/-- Split off the first `n` bytes, if there are as many. -/
def take? (n : Nat) (bytes : Bytes) : Option (Bytes × Bytes) :=
  let taken := bytes.take n
  if taken.length = n then some (taken, bytes.drop n) else none

namespace Field

def number : Field → Nat
  | .varint n _ => n
  | .fixed64 n _ => n
  | .bytes n _ => n
  | .group n _ => n
  | .fixed32 n _ => n

mutual

/-- The bytes of a field. -/
def encode : Field → Bytes
  | .varint n value => key n 0 ++ Wire.varint value
  | .fixed64 n value => key n 1 ++ value
  | .bytes n value => key n 2 ++ (Wire.varint value.length ++ value)
  | .group n fields => key n 3 ++ (encodeAll fields ++ key n 4)
  | .fixed32 n value => key n 5 ++ value

/-- The bytes of a row of fields. -/
def encodeAll : List Field → Bytes
  | [] => []
  | field :: rest => encode field ++ encodeAll rest

end

/-- Read the fields up to the end of the input, or, inside the group `closing`, up to the mark that
closes it, and return the bytes after that. Groups may be nested as deep as `depth` allows. Every
field takes a byte at least, so `fuel` beyond the length of the input is never used up. -/
def readFrom : (fuel depth : Nat) → (closing : Option Nat) → Bytes → Option (List Field × Bytes)
  | 0, _, _, _ => none
  | fuel + 1, depth, closing, input =>
    if input.isEmpty ∧ closing.isNone then some ([], [])
    else
      match key? input with
      | none => none
      | some (number, kind, rest) =>
        if kind = 4 then if closing = some number then some ([], rest) else none
        else
          match depth with
          | 0 => none
          | inner + 1 =>
            let next (field : Field) (rest : Bytes) : Option (List Field × Bytes) :=
              match readFrom fuel (inner + 1) closing rest with
              | some (fields, rest) => some (field :: fields, rest)
              | none => none
            if kind = 0 then
              match varint? rest with
              | some (value, rest) => next (.varint number value) rest
              | none => none
            else if kind = 1 then
              match take? 8 rest with
              | some (value, rest) => next (.fixed64 number value) rest
              | none => none
            else if kind = 2 then
              match varint? rest with
              | some (length, rest) =>
                match take? length rest with
                | some (value, rest) => next (.bytes number value) rest
                | none => none
              | none => none
            else if kind = 3 then
              match readFrom fuel inner (some number) rest with
              | some (fields, rest) => next (.group number fields) rest
              | none => none
            else
              match take? 4 rest with
              | some (value, rest) => next (.fixed32 number value) rest
              | none => none

/-- Read the fields of a whole message. -/
def read (depth : Nat) (input : Bytes) : Option (List Field) :=
  (readFrom (input.length + 1) depth none input).map (·.1)

end Field

/-! ## Messages -/

/-- A type of messages: how one is written as fields, how long that is, and how a field changes one.

`encodedSize` is the length of the encoding, found without writing it. `merge depth` refuses a field
whose number is declared but whose payload is of another kind, and leaves the message as it is if
the number is not declared. -/
class Message (α : Type) where
  empty : α
  fields : α → List Field
  encodedSize : α → Nat
  merge : (depth : Nat) → α → Field → Option α

namespace Message

variable {α : Type} [Message α]

/-- How deep messages and groups may be nested in a message. -/
def maxDepth : Nat := 100

/-- Add what a row of fields says to a message. -/
def mergeFields (depth : Nat) (message : α) (fields : List Field) : Option α :=
  fields.foldlM (merge depth) message

/-- Add what the bytes of another message say to a message. -/
def mergeBytes (depth : Nat) (message : α) (bytes : Bytes) : Option α :=
  (Field.read depth bytes).bind (mergeFields depth message)

/-- The message that the bytes hold. -/
def decode (bytes : Bytes) : Option α :=
  mergeBytes maxDepth empty bytes

def encode (message : α) : Bytes :=
  Field.encodeAll (fields message)

/-- Merge a payload into a part of a message that may be unset. -/
def mergePart (depth : Nat) (part : Option α) (bytes : Bytes) : Option (Option α) :=
  (mergeBytes depth (part.getD empty) bytes).map some

end Message

/-! ## Fields of single values -/

/-- A field that is written whenever it is set. -/
def textField (number : Nat) (value : Option String) : List Field :=
  match value with
  | some s => [.bytes number (utf8 s)]
  | none => []

/-- The sign of a number of 32 bits is carried to 64 bits. -/
def int32Word (i : Int32) : Nat :=
  (i.toInt % 0x10000000000000000).toNat

def int32Field (number : Nat) (value : Option Int32) : List Field :=
  match value with
  | some i => [.varint number (int32Word i)]
  | none => []

/-- A text that is written unless it is empty. -/
def plainText (number : Nat) (value : String) : List Field :=
  if value.isEmpty then [] else [.bytes number (utf8 value)]

/-- A byte string that is written unless it is empty. -/
def plainBytes (number : Nat) (value : Bytes) : List Field :=
  if value.isEmpty then [] else [.bytes number value]

/-! ## Sizes -/

/-- How many bytes a field with a payload of so many bytes takes. -/
def bytesSize (number length : Nat) : Nat :=
  varintSize (number * 8) + (varintSize length + length)

def textSize (number : Nat) (value : Option String) : Nat :=
  match value with
  | some s => bytesSize number s.utf8ByteSize
  | none => 0

def int32Size (number : Nat) (value : Option Int32) : Nat :=
  match value with
  | some i => varintSize (number * 8) + varintSize (int32Word i)
  | none => 0

/-- How many bytes a payload of so many bytes takes that is left out if it is empty. -/
def plainSize (number length : Nat) : Nat :=
  if length = 0 then 0 else bytesSize number length

/-- How many bytes a message takes as a part of another. -/
def partSize {α : Type} [Message α] (number : Nat) (part : Option α) : Nat :=
  match part with
  | some message => bytesSize number (Message.encodedSize message)
  | none => 0

/-- How many bytes the entries of a map take, given how many each takes as a message. -/
def entriesSize {α : Type} (number : Nat) (size : α → Nat) (entries : List α) : Nat :=
  entries.foldr (fun e rest => bytesSize number (size e) + rest) 0

/-! ## Payloads -/

/-- The payload of a text field. -/
def Field.text? : Field → Option String
  | .bytes _ value => Bytes.text? value
  | _ => none

/-- The payload of a field of bytes. -/
def Field.bytes? : Field → Option Bytes
  | .bytes _ value => some value
  | _ => none

/-- The payload of a field of 32 bits: the low bits of the number. -/
def Field.int32? : Field → Option Int32
  | .varint _ value => some (Int32.ofInt value)
  | _ => none

end Gatehouse.Wire
