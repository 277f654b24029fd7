import Gatehouse.Wire.Field

/-!
Rows of fields that are read back.

A field is `Plain` if it is a number or a string of bytes and everything about it fits the wire: its
own number 29 bits, its value or its length 64. What is written for a row of such fields is read as
the same row, so that decoding a message comes down to merging its fields one after the other.
-/

namespace Gatehouse

namespace Wire

/-! ## Base-128 numbers -/

theorem toNat_ofNat_byte {n : Nat} (small : n < 256) : (UInt8.ofNat n).toNat = n := by
  rw [UInt8.toNat_ofNat']
  exact Nat.mod_eq_of_lt small

theorem length_varint_pos (n : Nat) : 0 < (varint n).length := by
  unfold varint
  split
  · exact Nat.zero_lt_one
  · exact Nat.succ_pos _

/-- The groups that `limit` bytes and one more have room for, the last of them for one bit. -/
theorem readVarint_varint {limit n : Nat} (fits : n < 2 * Nat.pow 128 limit) (rest : Bytes) :
    readVarint (limit + 1) (varint n ++ rest) = some (n, rest) := by
  induction limit generalizing n with
  | zero =>
    have small : n < 2 := fits
    have oneByte : n < 128 := by omega
    have same := toNat_ofNat_byte (show n < 256 by omega)
    have noMore : ¬ 2 ≤ n := by omega
    rw [varint, if_pos oneByte, List.singleton_append, readVarint, same, if_pos oneByte]
    simp only [noMore, and_false, if_false]
  | succ limit ih =>
    by_cases oneByte : n < 128
    · have same := toNat_ofNat_byte (show n < 256 by omega)
      rw [varint, if_pos oneByte, List.singleton_append, readVarint, same, if_pos oneByte]
      simp only [Nat.add_eq_zero_iff, Nat.succ_ne_self, and_false, false_and, if_false]
    · have same := toNat_ofNat_byte (show n % 128 + 128 < 256 by omega)
      have larger : ¬ n % 128 + 128 < 128 := by omega
      have power : Nat.pow 128 (limit + 1) = Nat.pow 128 limit * 128 := rfl
      have groups : n / 128 < 2 * Nat.pow 128 limit := by omega
      rw [varint, if_neg oneByte, List.cons_append, readVarint, same, if_neg larger, ih groups]
      simp only [Option.some.injEq, Prod.mk.injEq, and_true]
      omega

/-- Numbers of 64 bits are read back. -/
theorem varint?_varint {n : Nat} (fits : n < 0x10000000000000000) (rest : Bytes) :
    varint? (varint n ++ rest) = some (n, rest) :=
  readVarint_varint (show n < 2 * Nat.pow 128 9 from fits) rest

theorem length_varint_le {limit n : Nat} (fits : n < 2 * Nat.pow 128 limit) :
    (varint n).length ≤ limit + 1 := by
  induction limit generalizing n with
  | zero =>
    have small : n < 2 := fits
    rw [varint, if_pos (show n < 128 by omega)]
    exact Nat.le_refl 1
  | succ limit ih =>
    by_cases oneByte : n < 128
    · rw [varint, if_pos oneByte]
      exact Nat.succ_le_succ (Nat.zero_le _)
    · have power : Nat.pow 128 (limit + 1) = Nat.pow 128 limit * 128 := rfl
      have groups : n / 128 < 2 * Nat.pow 128 limit := by omega
      rw [varint, if_neg oneByte, List.length_cons]
      exact Nat.succ_le_succ (ih groups)

/-! ## Marks -/

theorem key?_key {number kind : Nat} (positive : 0 < number) (fits : number < 0x20000000)
    (known : kind ≤ 5) (rest : Bytes) :
    key? (key number kind ++ rest) = some (number, kind, rest) := by
  have word : number * 8 + kind < 0x10000000000000000 := by omega
  have valid : 8 ≤ number * 8 + kind ∧ number * 8 + kind < 0x100000000 ∧
      (number * 8 + kind) % 8 ≤ 5 := by omega
  have quotient : (number * 8 + kind) / 8 = number := by omega
  have remainder : (number * 8 + kind) % 8 = kind := by omega
  rw [key?, key, varint?_varint word]
  dsimp only
  rw [if_pos valid, quotient, remainder]

theorem take?_append (value rest : Bytes) :
    take? value.length (value ++ rest) = some (value, rest) := by
  simp only [take?, List.take_left', List.drop_left', if_true]

/-! ## Rows -/

/-- A number or a string of bytes that fits the wire. -/
def Field.Plain : Field → Prop
  | .varint number value => 0 < number ∧ number < 0x20000000 ∧ value < 0x10000000000000000
  | .bytes number value => 0 < number ∧ number < 0x20000000 ∧ value.length < 0x10000000000000000
  | _ => False

namespace Field

theorem length_encode_pos (field : Field) : 0 < (encode field).length := by
  cases field with
  | varint number value =>
    rw [encode, List.length_append]
    exact Nat.add_pos_left (length_varint_pos _) _
  | fixed64 number value =>
    rw [encode, List.length_append]
    exact Nat.add_pos_left (length_varint_pos _) _
  | bytes number value =>
    rw [encode, List.length_append]
    exact Nat.add_pos_left (length_varint_pos _) _
  | group number fields =>
    rw [encode, List.length_append]
    exact Nat.add_pos_left (length_varint_pos _) _
  | fixed32 number value =>
    rw [encode, List.length_append]
    exact Nat.add_pos_left (length_varint_pos _) _

theorem length_le_length_encodeAll (fields : List Field) :
    fields.length ≤ (encodeAll fields).length := by
  induction fields with
  | nil => exact Nat.zero_le _
  | cons field rest ih =>
    have := length_encode_pos field
    rw [encodeAll, List.length_cons, List.length_append]
    omega

theorem encodeAll_append (first rest : List Field) :
    encodeAll (first ++ rest) = encodeAll first ++ encodeAll rest := by
  induction first with
  | nil => rw [List.nil_append, encodeAll, List.nil_append]
  | cons field more ih => rw [List.cons_append, encodeAll, encodeAll, ih, List.append_assoc]

/-- A field in front of fields that are read is read as well. -/
theorem readFrom_encode {field : Field} (plain : field.Plain) {fuel depth : Nat}
    {rest left : Bytes} {fields : List Field}
    (remaining : readFrom fuel (depth + 1) none rest = some (fields, left)) :
    readFrom (fuel + 1) (depth + 1) none (encode field ++ rest) = some (field :: fields, left) := by
  have nonempty : (encode field ++ rest).isEmpty = false := by
    rw [List.isEmpty_eq_false_iff]
    exact List.append_ne_nil_of_left_ne_nil (List.length_pos_iff.mp (length_encode_pos field)) rest
  cases field with
  | varint number value =>
    obtain ⟨positive, small, fits⟩ := plain
    rw [encode, List.append_assoc] at nonempty ⊢
    rw [readFrom, nonempty, key?_key positive small (by decide)]
    simp only [Bool.false_eq_true, false_and, if_false, reduceCtorEq, varint?_varint fits,
      remaining, if_true]
  | bytes number value =>
    obtain ⟨positive, small, fits⟩ := plain
    rw [encode, List.append_assoc, List.append_assoc] at nonempty ⊢
    rw [readFrom, nonempty, key?_key positive small (by decide)]
    simp only [Bool.false_eq_true, false_and, if_false, reduceCtorEq, varint?_varint fits,
      take?_append, remaining, Nat.reduceEqDiff, if_true]
  | fixed64 number value => exact absurd plain id
  | group number fields => exact absurd plain id
  | fixed32 number value => exact absurd plain id

theorem readFrom_encodeAll {fields : List Field} (plain : ∀ field ∈ fields, field.Plain)
    {fuel : Nat} (enough : fields.length < fuel) (depth : Nat) :
    readFrom fuel (depth + 1) none (encodeAll fields) = some (fields, []) := by
  induction fields generalizing fuel with
  | nil =>
    cases fuel with
    | zero => exact absurd enough (Nat.not_lt_zero _)
    | succ fuel =>
      simp only [encodeAll, readFrom, List.isEmpty_nil, Option.isNone_none, and_self, if_true]
  | cons field rest ih =>
    cases fuel with
    | zero => exact absurd enough (Nat.not_lt_zero _)
    | succ fuel =>
      have remaining := ih (fun other member => plain other (List.mem_cons_of_mem _ member))
        (Nat.lt_of_succ_lt_succ enough)
      rw [encodeAll]
      exact readFrom_encode (plain field List.mem_cons_self) remaining

/-- A row of plain fields is read as it was written. -/
theorem read_encodeAll {fields : List Field} (plain : ∀ field ∈ fields, field.Plain)
    (depth : Nat) : read (depth + 1) (encodeAll fields) = some fields := by
  have enough := Nat.lt_succ_of_le (length_le_length_encodeAll fields)
  rw [read, readFrom_encodeAll plain enough depth, Option.map_some]

end Field

/-! ## Messages -/

namespace Message

variable {α : Type} [Message α]

theorem mergeFields_append (depth : Nat) (start : α) (first rest : List Field) :
    mergeFields depth start (first ++ rest) =
      (mergeFields depth start first).bind fun middle => mergeFields depth middle rest :=
  List.foldlM_append

end Message

end Wire

end Gatehouse
