import Gatehouse.Proofs.Dict
import Gatehouse.Proofs.Wire.Rows
import Gatehouse.Wire.Any

/-!
Rows that fill a message.

A row `Fills` a message if it takes as many bytes as the sizes add up to and leads from the message
with some of its members unset to the one with them set. Rows that fill one after the other fill
together, so a message type has one such fact for each of its members: a text, a number, a map, or a
message that is a part of it. The entries of a map may be written in any order.
-/

namespace Gatehouse

namespace Wire

/-! ## Lengths -/

theorem length_varint (n : Nat) : (varint n).length = varintSize n := by
  induction n using varint.induct with
  | case1 n oneByte =>
    rw [varint, varintSize, if_pos oneByte, if_pos oneByte, List.length_singleton]
  | case2 n larger ih =>
    rw [varint, varintSize, if_neg larger, if_neg larger, List.length_cons, ih, Nat.add_comm]

/-- The kind of a payload does not make its mark longer. -/
theorem varintSize_mark (number : Nat) {kind : Nat} (known : kind < 8) :
    varintSize (number * 8 + kind) = varintSize (number * 8) := by
  have groups : (number * 8 + kind) / 128 = number * 8 / 128 := by omega
  have oneByte : number * 8 + kind < 128 ↔ number * 8 < 128 := by omega
  rw [varintSize, groups, varintSize.eq_def (number * 8)]
  simp only [oneByte]

theorem varintSize_le {limit n : Nat} (fits : n < 2 * Nat.pow 128 limit) :
    varintSize n ≤ limit + 1 := by
  rw [← length_varint]
  exact length_varint_le fits

/-- A payload and what is written around it. -/
theorem plainSize_le {number length : Nat} (small : number < 0x20000000)
    (short : length < 0x10000000000000000) : plainSize number length ≤ length + 20 := by
  have mark : varintSize (number * 8) ≤ 9 + 1 :=
    varintSize_le (Nat.lt_trans (show number * 8 < 0x100000000 by omega) (by decide))
  have counted : varintSize length ≤ 9 + 1 := varintSize_le short
  unfold plainSize bytesSize
  split <;> omega

theorem length_utf8 (s : String) : (utf8 s).length = s.utf8ByteSize := rfl

namespace Field

theorem length_encode_varint (number value : Nat) :
    (encode (.varint number value)).length = varintSize (number * 8) + varintSize value := by
  rw [encode, key, List.length_append, length_varint, length_varint,
    varintSize_mark number (by decide)]

theorem length_encode_bytes (number : Nat) (value : Bytes) :
    (encode (.bytes number value)).length = bytesSize number value.length := by
  rw [encode, key, List.length_append, List.length_append, length_varint, length_varint,
    varintSize_mark number (by decide), bytesSize]

theorem encodeAll_singleton (field : Field) : encodeAll [field] = encode field := by
  rw [encodeAll, encodeAll, List.append_nil]

end Field

/-- The sign that was carried to 64 bits is dropped again. -/
theorem ofInt_int32Word (i : Int32) : Int32.ofInt (int32Word i) = i := by
  have nonnegative : 0 ≤ i.toInt % 0x10000000000000000 := Int.emod_nonneg _ (by decide)
  have least := i.le_toInt
  have greatest := i.toInt_lt
  rw [int32Word, Int.toNat_of_nonneg nonnegative, ← Int32.toInt_inj, Int32.toInt_ofInt,
    Int.bmod_def, show Int32.size = 0x100000000 from rfl]
  omega

theorem int32Word_lt (i : Int32) : int32Word i < 0x10000000000000000 := by
  have below : i.toInt % 0x10000000000000000 < 0x10000000000000000 :=
    Int.emod_lt_of_pos _ (by decide)
  rw [int32Word]
  omega

/-! ## Filling -/

variable {α : Type} [Message α]

/-- A row that takes `size` bytes and leads from one message to another, where messages may be
nested `depth` deep. -/
structure Fills (depth : Nat) (start : α) (row : List Field) (done : α) (size : Nat) : Prop where
  length : (Field.encodeAll row).length = size
  /-- What is in a row fits the wire if the row as a whole does. -/
  plain : size < 0x10000000000000000 → ∀ field ∈ row, field.Plain
  merges : (∀ field ∈ row, field.Plain) → Message.mergeFields depth start row = some done

/-- The row of a message that may be unset. -/
def partField (number : Nat) (inner : Option (List Field)) : List Field :=
  match inner with
  | some row => [.bytes number (Field.encodeAll row)]
  | none => []

/-- The numbers that a field may have. -/
def IsNumber (number : Nat) : Prop :=
  0 < number ∧ number < 0x20000000

instance (number : Nat) : Decidable (IsNumber number) :=
  inferInstanceAs (Decidable (_ ∧ _))

namespace Fills

variable {depth number size : Nat} {start middle done : α} {row : List Field}

theorem nil : Fills depth start [] start 0 where
  length := rfl
  plain _ _ member := nomatch member
  merges _ := rfl

/-- The start may be written in another way than the member that is set suggests. -/
theorem of_eq (filled : Fills depth middle row done size) (same : middle = start) :
    Fills depth start row done size :=
  same ▸ filled

theorem append {first rest : List Field} {firstSize restSize : Nat}
    (before : Fills depth start first middle firstSize)
    (after : Fills depth middle rest done restSize) :
    Fills depth start (first ++ rest) done (firstSize + restSize) where
  length := by rw [Field.encodeAll_append, List.length_append, before.length, after.length]
  plain fits field member := by
    rcases List.mem_append.mp member with early | late
    · exact before.plain (by omega) field early
    · exact after.plain (by omega) field late
  merges plain := by
    have first := before.merges fun field member => plain field (List.mem_append_left _ member)
    have second := after.merges fun field member => plain field (List.mem_append_right _ member)
    rw [Message.mergeFields_append, first, Option.bind_some, second]

theorem single {field : Field} (length : (Field.encode field).length = size)
    (plain : size < 0x10000000000000000 → field.Plain)
    (merge : field.Plain → Message.merge depth start field = some done) :
    Fills depth start [field] done size where
  length := by rw [Field.encodeAll_singleton, length]
  plain fits other member := by
    rw [List.mem_singleton.mp member]
    exact plain fits
  merges all := by
    rw [Message.mergeFields, List.foldlM_cons, merge (all field (List.mem_singleton.mpr rfl))]
    rfl

/-- A payload of bytes that the message takes. -/
theorem payload (valid : IsNumber number) {bytes : Bytes} (length : bytes.length = size)
    (merge : bytes.length < 0x10000000000000000 →
      Message.merge depth start (.bytes number bytes) = some done) :
    Fills depth start [.bytes number bytes] done (bytesSize number size) := by
  refine single ?_ (fun fits => ?_) fun plain => merge plain.2.2
  · rw [Field.length_encode_bytes, length]
  · refine ⟨valid.1, valid.2, ?_⟩
    rw [length]
    unfold bytesSize at fits
    omega

/-- Nothing is written for a message that is as it was at the start. -/
theorem eq_of_length_zero (filled : Fills depth start row done 0) : done = start := by
  have none : row = [] := by
    have atMost := Field.length_le_length_encodeAll row
    rw [filled.length] at atMost
    exact List.length_eq_zero_iff.mp (Nat.le_zero.mp atMost)
  subst none
  exact (Option.some.inj (filled.merges fun _ member => nomatch member)).symm

/-- The bytes of a row that fits the wire are read back. -/
theorem mergeBytes (filled : Fills (depth + 1) start row done size)
    (plain : ∀ field ∈ row, field.Plain) :
    Message.mergeBytes (depth + 1) start (Field.encodeAll row) = some done := by
  rw [Message.mergeBytes, Field.read_encodeAll plain, Option.bind_some, filled.merges plain]

/-! ## Members with a single value -/

theorem text {value : Option String} {set : Option String → α} (valid : IsNumber number)
    (merge : ∀ bytes, Message.merge depth (set none) (.bytes number bytes) =
      (Bytes.text? bytes).map fun s => set (some s)) :
    Fills depth (set none) (textField number value) (set value) (textSize number value) := by
  cases value with
  | none => exact nil
  | some s =>
    refine payload valid (length_utf8 s) fun _ => ?_
    rw [merge, Bytes.text?_utf8, Option.map_some]

theorem int32 {value : Option Int32} {set : Option Int32 → α} (valid : IsNumber number)
    (merge : ∀ word : Nat, Message.merge depth (set none) (.varint number word) =
      some (set (some (Int32.ofInt word)))) :
    Fills depth (set none) (int32Field number value) (set value) (int32Size number value) := by
  cases value with
  | none => exact nil
  | some i =>
    refine single (Field.length_encode_varint _ _) (fun _ => ⟨valid.1, valid.2, int32Word_lt i⟩)
      fun _ => ?_
    rw [merge, ofInt_int32Word]

/-- A text that is left out if it is empty. -/
theorem plainText {value : String} {set : String → α} (valid : IsNumber number)
    (merge : ∀ bytes, Message.merge depth (set "") (.bytes number bytes) =
      (Bytes.text? bytes).map set) :
    Fills depth (set "") (plainText number value) (set value)
      (plainSize number value.utf8ByteSize) := by
  unfold Wire.plainText plainSize
  by_cases empty : value = ""
  · subst empty
    exact nil
  · have nonempty : ¬ value.isEmpty = true := fun isEmpty => empty (String.isEmpty_iff.mp isEmpty)
    have long : ¬ value.utf8ByteSize = 0 := fun none =>
      empty (String.utf8ByteSize_eq_zero_iff.mp none)
    rw [if_neg nonempty, if_neg long]
    refine payload valid (length_utf8 value) fun _ => ?_
    rw [merge, Bytes.text?_utf8, Option.map_some]

/-- A byte string that is left out if it is empty. -/
theorem plainBytes {value : Bytes} {set : Bytes → α} (valid : IsNumber number)
    (merge : ∀ bytes, Message.merge depth (set []) (.bytes number bytes) = some (set bytes)) :
    Fills depth (set []) (plainBytes number value) (set value)
      (plainSize number value.length) := by
  cases value with
  | nil => exact nil
  | cons b rest => exact payload valid rfl fun _ => merge _

/-! ## Members that are messages -/

variable {β : Type} [Message β]

/-- A message inside another that is left out if it takes no bytes. -/
theorem plainPart {inner : List Field} {value : β} {set : β → α} (valid : IsNumber number)
    (part : Fills (depth + 1) Message.empty inner value size)
    (merge : ∀ bytes, Message.merge (depth + 2) (set Message.empty) (.bytes number bytes) =
      (Message.mergeBytes (depth + 1) Message.empty bytes).bind fun value => some (set value)) :
    Fills (depth + 2) (set Message.empty) (Wire.plainBytes number (Field.encodeAll inner))
      (set value) (plainSize number size) := by
  unfold Wire.plainBytes plainSize
  by_cases none : size = 0
  · subst none
    rw [List.isEmpty_iff.mpr (List.length_eq_zero_iff.mp part.length), if_pos rfl, if_pos rfl,
      part.eq_of_length_zero]
    exact nil
  · have nonempty : (Field.encodeAll inner).isEmpty = false := by
      rw [List.isEmpty_eq_false_iff, ← List.length_pos_iff, part.length]
      exact Nat.pos_of_ne_zero none
    rw [nonempty, if_neg Bool.false_ne_true, if_neg none]
    refine payload valid part.length fun short => ?_
    rw [part.length] at short
    rw [merge, part.mergeBytes (part.plain short), Option.bind_some]

/-- A message inside another that may be unset. -/
theorem part {inner : Option (List Field)} {value : Option β} {set : Option β → α}
    (valid : IsNumber number)
    (parts : Option.Rel (fun value row =>
      Fills (depth + 1) Message.empty row value (Message.encodedSize value)) value inner)
    (merge : ∀ bytes, Message.merge (depth + 2) (set none) (.bytes number bytes) =
      (Message.mergePart (depth + 1) none bytes).bind fun part => some (set part)) :
    Fills (depth + 2) (set none) (partField number inner) (set value) (partSize number value) := by
  cases parts with
  | none => exact nil
  | @some value row filled =>
    refine payload valid filled.length fun short => ?_
    rw [filled.length] at short
    rw [merge, Message.mergePart, Option.getD_none, filled.mergeBytes (filled.plain short)]
    rfl

end Fills

/-! ## Members that are maps -/

theorem entriesSize_perm {ε : Type} (number : Nat) (size : ε → Nat) {entries others : List ε}
    (perm : entries.Perm others) :
    entriesSize number size entries = entriesSize number size others := by
  unfold entriesSize
  induction perm with
  | nil => rfl
  | cons e _ ih => rw [List.foldr_cons, List.foldr_cons, ih]
  | swap e other rest =>
    rw [List.foldr_cons, List.foldr_cons, List.foldr_cons, List.foldr_cons]
    omega
  | trans _ _ first second => exact first.trans second

namespace Fills

section Entries

variable {ε β : Type} [Message ε] {depth number : Nat} {entry : String × β → ε} {set : Dict β → α}
  (each : ∀ e, Fills (depth + 1) Message.empty (Message.fields (entry e)) (entry e)
    (Message.encodedSize (entry e)))
  (merge : ∀ map bytes e, Message.mergeBytes (depth + 1) Message.empty bytes = some (entry e) →
    Message.merge (depth + 2) (set map) (.bytes number bytes) = some (set (map.insert e.1 e.2)))
include each merge

/-- Entries are added to a map one after the other. -/
theorem insertAll (valid : IsNumber number) (entries : List (String × β)) (map : Dict β) :
    Fills (depth + 2) (set map) (entries.map fun e => .bytes number (Message.encode (entry e)))
      (set (map.insertAll entries))
      (entriesSize number (fun e => Message.encodedSize (entry e)) entries) := by
  induction entries generalizing map with
  | nil => exact nil
  | cons e rest ih =>
    have first : Fills (depth + 2) (set map) [.bytes number (Message.encode (entry e))]
        (set (map.insert e.1 e.2)) (bytesSize number (Message.encodedSize (entry e))) := by
      refine payload valid (each e).length fun short => merge map _ e ?_
      rw [Message.encode, (each e).length] at short
      exact (each e).mergeBytes ((each e).plain short)
    exact first.append (ih _)

/-- The entries of a map may be written in any order. -/
theorem entries (valid : IsNumber number) {map : Dict β} {written : List (String × β)}
    (perm : written.Perm map.entries) :
    Fills (depth + 2) (set ∅) (written.map fun e => .bytes number (Message.encode (entry e)))
      (set map) (entriesSize number (fun e => Message.encodedSize (entry e)) map.entries) := by
  have filled := insertAll each merge valid written ∅
  rw [Dict.insertAll_perm perm, entriesSize_perm number _ perm] at filled
  exact filled

end Entries

end Fills

end Wire

end Gatehouse
