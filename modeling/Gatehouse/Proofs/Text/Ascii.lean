import Gatehouse.Text.Bytes

/-!
The ASCII characters of a text, among its bytes.

In UTF-8 a byte below 0x80 stands for a character of its own, so such a byte tells which character
is there, whatever the others are.
-/

namespace Gatehouse

theorem utf8_ofList (cs : List Char) :
    utf8 (String.ofList cs) = cs.flatMap String.utf8EncodeChar := by
  rw [utf8, String.toByteArray_ofList, List.utf8Encode, List.data_toByteArray]

theorem utf8_append (a b : String) : utf8 (a ++ b) = utf8 a ++ utf8 b := by
  simp [utf8]

theorem mem_utf8EncodeChar_iff {b : UInt8} (ascii : b.toNat < 0x80) {c : Char} :
    b ∈ String.utf8EncodeChar c ↔ c.toNat = b.toNat := by
  have val : c.val.toNat = c.toNat := rfl
  unfold String.utf8EncodeChar
  simp only [val]
  split
  · rename_i short
    rw [List.mem_singleton, ← UInt8.toNat_inj, UInt8.toNat_ofNat']
    omega
  · rename_i long
    -- all bytes of a longer sequence are 0x80 and above
    refine iff_of_false ?_ (by omega)
    split
    · simp [← UInt8.toNat_inj]
      omega
    · split
      · simp [← UInt8.toNat_inj]
        omega
      · simp [← UInt8.toNat_inj]
        omega

/-- A byte below 0x80 is in a text if its character is. -/
theorem mem_utf8_iff {b : UInt8} (ascii : b.toNat < 0x80) {s : String} :
    b ∈ utf8 s ↔ ∃ c ∈ s.toList, c.toNat = b.toNat := by
  rw [← String.ofList_toList (s := s), utf8_ofList, List.mem_flatMap, String.toList_ofList]
  refine exists_congr fun c => and_congr_right fun _ => ?_
  exact mem_utf8EncodeChar_iff ascii

end Gatehouse
