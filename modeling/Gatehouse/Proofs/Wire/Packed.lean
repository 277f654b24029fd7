import Gatehouse.Proofs.Wire.Filling

/-!
Packed messages that are read back.

The byte strings, slices of files and maps of texts that travel inside an `Any` come back as they
were packed, as long as no text or byte string in them is too long for its length to be written in
64 bits. A map comes back in whatever order its entries are written.
-/

namespace Gatehouse

open Wire

/-! ## Byte strings and slices of files -/

theorem BytesValue.fills (depth : Nat) (value : BytesValue) :
    Fills depth ⟨[]⟩ (Message.fields value) value (Message.encodedSize value) :=
  .plainBytes (by decide) fun _ => rfl

theorem FileChunk.fills (depth : Nat) (chunk : FileChunk) :
    Fills depth ⟨"", []⟩ (Message.fields chunk) chunk (Message.encodedSize chunk) := by
  obtain ⟨name, data⟩ := chunk
  have named : Fills depth ⟨"", []⟩ (plainText 1 name) (⟨name, []⟩ : FileChunk)
      (plainSize 1 name.utf8ByteSize) := by
    apply Fills.of_eq (.plainText (by decide) fun _ => rfl)
    rfl
  exact named.append (.plainBytes (by decide) fun _ => rfl)

theorem plain_plainText {number : Nat} (valid : IsNumber number) {value : String}
    (fits : (utf8 value).length < 0x10000000000000000) :
    ∀ field ∈ plainText number value, field.Plain := by
  intro field member
  unfold plainText at member
  split at member
  · cases member
  · rw [List.mem_singleton.mp member]
    exact ⟨valid.1, valid.2, fits⟩

theorem plain_plainBytes {number : Nat} (valid : IsNumber number) {value : Bytes}
    (fits : value.length < 0x10000000000000000) :
    ∀ field ∈ plainBytes number value, field.Plain := by
  intro field member
  unfold plainBytes at member
  split at member
  · cases member
  · rw [List.mem_singleton.mp member]
    exact ⟨valid.1, valid.2, fits⟩

theorem BytesValue.decode_encode {value : BytesValue}
    (short : value.value.length < 0x10000000000000000) :
    Message.decode (Message.encode value) = some value :=
  (fills 100 value).mergeBytes (plain_plainBytes (by decide) short)

theorem FileChunk.decode_encode {chunk : FileChunk}
    (shortName : (utf8 chunk.name).length < 0x10000000000000000)
    (shortData : chunk.data.length < 0x10000000000000000) :
    Message.decode (Message.encode chunk) = some chunk := by
  refine (fills 100 chunk).mergeBytes fun field member => ?_
  rcases List.mem_append.mp member with name | data
  · exact plain_plainText (by decide) shortName field name
  · exact plain_plainBytes (by decide) shortData field data

/-! ## Maps of texts -/

namespace TextEntry

theorem fills (depth : Nat) (entry : TextEntry) :
    Fills depth ⟨"", ""⟩ (Message.fields entry) entry (Message.encodedSize entry) := by
  obtain ⟨key, value⟩ := entry
  have keyed : Fills depth ⟨"", ""⟩ (plainText 1 key) (⟨key, ""⟩ : TextEntry)
      (plainSize 1 key.utf8ByteSize) := by
    apply Fills.of_eq (.plainText (by decide) fun _ => rfl)
    rfl
  exact keyed.append (.plainText (by decide) fun _ => rfl)

/-- An entry that fits the wire. -/
def Fits (entry : TextEntry) : Prop :=
  (utf8 entry.key).length + (utf8 entry.value).length + 40 < 0x10000000000000000

theorem length_encode_lt {entry : TextEntry} (fits : entry.Fits) :
    (Message.encode entry).length < 0x10000000000000000 := by
  unfold Fits at fits
  rw [length_utf8, length_utf8] at fits
  have key : plainSize 1 entry.key.utf8ByteSize ≤ entry.key.utf8ByteSize + 20 :=
    plainSize_le (by decide) (by omega)
  have value : plainSize 2 entry.value.utf8ByteSize ≤ entry.value.utf8ByteSize + 20 :=
    plainSize_le (by decide) (by omega)
  have length : (Message.encode entry).length =
      plainSize 1 entry.key.utf8ByteSize + plainSize 2 entry.value.utf8ByteSize :=
    (fills 0 entry).length
  omega

end TextEntry

namespace StringMap

/-- The field of an entry. -/
def entryField (entry : String × String) : Field :=
  .bytes 1 (Message.encode (TextEntry.mk entry.1 entry.2))

/-- The order in which the entries of a map are written does not matter. -/
theorem fills (depth : Nat) {map : StringMap} {entries : List (String × String)}
    (perm : entries.Perm map.entries.entries) :
    Fills (depth + 2) ⟨∅⟩ (entries.map entryField) map (Message.encodedSize map) := by
  refine .entries (fun e => TextEntry.fills _ ⟨e.1, e.2⟩) (fun map bytes e read => ?_)
    (by decide) perm
  change (Message.mergeBytes (depth + 1) (⟨"", ""⟩ : TextEntry) bytes).bind _ = _
  rw [show Message.mergeBytes (depth + 1) (⟨"", ""⟩ : TextEntry) bytes = _ from read]
  rfl

theorem decode_encode {map : StringMap}
    (fits : ∀ e ∈ map.entries.entries, (TextEntry.mk e.1 e.2).Fits) :
    Message.decode (Message.encode map) = some map := by
  refine (fills 98 (List.Perm.refl _)).mergeBytes fun field member => ?_
  obtain ⟨entry, there, rfl⟩ := List.mem_map.mp member
  exact ⟨by decide, by decide, TextEntry.length_encode_lt (fits entry there)⟩

end StringMap

/-! ## Packing -/

theorem Any.unpack?_pack {α : Type} [Message α] {message : α} (typeUrl : String)
    (readable : Message.decode (Message.encode message) = some message) :
    Any.unpack? typeUrl (Any.pack typeUrl message) = some message := by
  unfold Any.unpack? Any.pack
  rw [if_pos rfl]
  exact readable

end Gatehouse
