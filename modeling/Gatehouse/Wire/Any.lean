import Gatehouse.Dict
import Gatehouse.Wire.Field

/-!
Values of any message type, and the small messages that are packed into them.

An `Any` is a type's name and the bytes of a message of that type. A map from names to values is a
row of entries on the wire, each a message of its own with the name under 1 and the value under 2;
of two entries of one name the later one counts.
-/

namespace Gatehouse

open Wire

/-- A message of any type. -/
structure Any where
  typeUrl : String
  value : Bytes
  deriving DecidableEq, Repr, Inhabited

instance : Message Any where
  empty := ⟨"", []⟩
  fields a := plainText 1 a.typeUrl ++ plainBytes 2 a.value
  encodedSize a := plainSize 1 a.typeUrl.utf8ByteSize + plainSize 2 a.value.length
  merge _ a field :=
    match field.number with
    | 1 => field.text?.map fun s => { a with typeUrl := s }
    | 2 => field.bytes?.map fun b => { a with value := b }
    | _ => some a

/-- One entry of a map of messages. -/
structure MapEntry (α : Type) where
  key : String
  value : α

/-- The entries of maps of messages. A name or value that is empty is left out. -/
instance (α : Type) [Message α] : Message (MapEntry α) where
  empty := ⟨"", Message.empty⟩
  fields e :=
    let value := Message.encode e.value
    plainText 1 e.key ++ plainBytes 2 value
  encodedSize e := plainSize 1 e.key.utf8ByteSize + plainSize 2 (Message.encodedSize e.value)
  merge depth e field :=
    match field.number with
    | 1 => field.text?.map fun s => { e with key := s }
    | 2 => do
      let bytes ← field.bytes?
      let value ← Message.mergeBytes (depth - 1) e.value bytes
      some { e with value }
    | _ => some e

/-- The fields of a map. -/
def mapFields (number : Nat) (map : Dict Any) : List Field :=
  map.entries.map fun e => .bytes number (Message.encode (MapEntry.mk e.1 e.2))

/-- How many bytes a map takes. -/
def mapSize (number : Nat) (map : Dict Any) : Nat :=
  entriesSize number (fun e => Message.encodedSize (MapEntry.mk e.1 e.2)) map.entries

/-- Add an entry to a map. -/
def mergeEntry (depth : Nat) (map : Dict Any) (field : Field) : Option (Dict Any) := do
  let bytes ← field.bytes?
  let entry : MapEntry Any ← Message.mergeBytes (depth - 1) Message.empty bytes
  some (map.insert entry.key entry.value)

/-! ## Packed messages -/

/-- A byte string as a message. -/
structure BytesValue where
  value : Bytes
  deriving DecidableEq, Repr, Inhabited

instance : Message BytesValue where
  empty := ⟨[]⟩
  fields v := plainBytes 1 v.value
  encodedSize v := plainSize 1 v.value.length
  merge _ v field :=
    match field.number with
    | 1 => field.bytes?.map fun b => ⟨b⟩
    | _ => some v

/-- One slice of an uploaded file. -/
structure FileChunk where
  name : String
  data : Bytes
  deriving DecidableEq, Repr, Inhabited

instance : Message FileChunk where
  empty := ⟨"", []⟩
  fields c := plainText 1 c.name ++ plainBytes 2 c.data
  encodedSize c := plainSize 1 c.name.utf8ByteSize + plainSize 2 c.data.length
  merge _ c field :=
    match field.number with
    | 1 => field.text?.map fun s => { c with name := s }
    | 2 => field.bytes?.map fun b => { c with data := b }
    | _ => some c

/-- Texts under names. -/
structure StringMap where
  entries : Dict String
  deriving DecidableEq, Repr, Inhabited

/-- One entry of a map of texts. A name or text that is empty is left out. -/
structure TextEntry where
  key : String
  value : String

instance : Message TextEntry where
  empty := ⟨"", ""⟩
  fields e := plainText 1 e.key ++ plainText 2 e.value
  encodedSize e := plainSize 1 e.key.utf8ByteSize + plainSize 2 e.value.utf8ByteSize
  merge _ e field :=
    match field.number with
    | 1 => field.text?.map fun s => { e with key := s }
    | 2 => field.text?.map fun s => { e with value := s }
    | _ => some e

instance : Message StringMap where
  empty := ⟨∅⟩
  fields m := m.entries.entries.map fun e => .bytes 1 (Message.encode (TextEntry.mk e.1 e.2))
  encodedSize m :=
    entriesSize 1 (fun e => Message.encodedSize (TextEntry.mk e.1 e.2)) m.entries.entries
  merge depth m field :=
    match field.number with
    | 1 => do
      let bytes ← field.bytes?
      let entry : TextEntry ← Message.mergeBytes (depth - 1) Message.empty bytes
      some ⟨m.entries.insert entry.key entry.value⟩
    | _ => some m

namespace Any

def bytesValueType : String := "type.googleapis.com/google.protobuf.BytesValue"

def stringMapType : String := "type.googleapis.com/StringMap"

def fileChunkType : String := "type.googleapis.com/FileChunk"

/-- Pack a message under a type's name. -/
def pack {α : Type} [Message α] (typeUrl : String) (message : α) : Any :=
  ⟨typeUrl, Message.encode message⟩

/-- The message inside, if it is of the named type. -/
def unpack? {α : Type} [Message α] (typeUrl : String) (any : Any) : Option α :=
  if any.typeUrl = typeUrl then Message.decode any.value else none

end Any

end Gatehouse
