import Gatehouse.Net.Address
import Gatehouse.Proofs.Text.RoundTrip
import Gatehouse.Proofs.Text.Trimming

/-!
The canonical text of an address: it is not empty, and it has no white space.
-/

namespace Gatehouse.Net

/-- An address of version 6 has eight groups. The numbers of either version are not bounded here. -/
def IpAddr.IsComplete : IpAddr → Prop
  | v4 _ _ _ _ => True
  | v6 groups => groups.length = 8

/-- The characters of the text of an address. -/
def IsAddressChar (c : Char) : Prop := 0x21 ≤ c.toNat ∧ c.toNat < 0x7F

theorem IsAddressChar.notBlank {c : Char} (isChar : IsAddressChar c) : Text.isBlank c = false := by
  have bounds : 0x21 ≤ c.toNat ∧ c.toNat < 0x7F := isChar
  simp [Text.isBlank]
  omega

theorem hexDigits_ne_nil (n : Nat) : hexDigits n ≠ [] := by
  rw [hexDigits]
  split <;> simp

theorem isAddressChar_digit {n : Nat} (small : n < 16) : IsAddressChar (Hex.digit n) := by
  have all : ∀ n < 16, 0x21 ≤ (Hex.digit n).toNat ∧ (Hex.digit n).toNat < 0x7F := by decide
  exact all n small

theorem isAddressChar_of_mem_hexDigits {n : Nat} {c : Char} (member : c ∈ hexDigits n) :
    IsAddressChar c := by
  induction n using hexDigits.induct with
  | case1 n small =>
    rw [hexDigits, if_pos small, List.mem_singleton] at member
    rw [member]
    exact isAddressChar_digit small
  | case2 n large ih =>
    rw [hexDigits, if_neg large, List.mem_append, List.mem_singleton] at member
    rcases member with front | rfl
    · exact ih front
    · exact isAddressChar_digit (Nat.mod_lt _ (by decide))

theorem isAddressChar_of_isDigit {c : Char} (digit : Numeral.isDigit c = true) :
    IsAddressChar c := by
  have bounds : '0' ≤ c ∧ c ≤ '9' := by simpa [Numeral.isDigit] using digit
  rw [Char.le_def, Char.le_def, UInt32.le_iff_toNat_le, UInt32.le_iff_toNat_le] at bounds
  exact ⟨Nat.le_trans (by decide) bounds.1, Nat.lt_of_le_of_lt bounds.2 (by decide)⟩

theorem mem_intercalate {α : Type} {separator : List α} {parts : List (List α)} {x : α}
    (member : x ∈ separator.intercalate parts) : x ∈ separator ∨ ∃ part ∈ parts, x ∈ part := by
  induction parts with
  | nil => simp at member
  | cons part parts ih =>
    cases parts with
    | nil => exact Or.inr ⟨part, by simpa using member⟩
    | cons next parts =>
      rw [List.intercalate_cons_cons, List.append_assoc, List.mem_append, List.mem_append] at member
      rcases member with here | between | later
      · exact Or.inr ⟨part, List.mem_cons_self, here⟩
      · exact Or.inl between
      · rcases ih later with between | ⟨other, isThere, inside⟩
        · exact Or.inl between
        · exact Or.inr ⟨other, List.mem_cons_of_mem _ isThere, inside⟩

theorem intercalate_ne_nil {α : Type} {separator part : List α} (notEmpty : part ≠ [])
    (parts : List (List α)) : separator.intercalate (part :: parts) ≠ [] := by
  cases parts with
  | nil => simpa using notEmpty
  | cons next parts => simp [List.intercalate_cons_cons, notEmpty]

theorem toList_dotted (a b c d : Nat) :
    (dotted a b c d).toList = ['.'].intercalate ([a, b, c, d].map Numeral.digits) := by
  simp [dotted, Numeral.natText]

theorem toList_joinGroups (groups : List Nat) :
    (joinGroups groups).toList = [':'].intercalate (groups.map hexDigits) := by
  simp [joinGroups, String.toList_intercalate, Function.comp_def]

theorem isAddressChar_of_mem_dotted {a b c d : Nat} {x : Char}
    (member : x ∈ (dotted a b c d).toList) : IsAddressChar x := by
  rw [toList_dotted] at member
  rcases mem_intercalate member with between | ⟨part, isPart, inside⟩
  · rw [List.mem_singleton.mp between]
    exact ⟨by decide, by decide⟩
  · obtain ⟨n, -, rfl⟩ := List.mem_map.mp isPart
    exact isAddressChar_of_isDigit (Numeral.isDigit_of_mem_digits inside)

theorem isAddressChar_of_mem_joinGroups {groups : List Nat} {x : Char}
    (member : x ∈ (joinGroups groups).toList) : IsAddressChar x := by
  rw [toList_joinGroups] at member
  rcases mem_intercalate member with between | ⟨part, isPart, inside⟩
  · rw [List.mem_singleton.mp between]
    exact ⟨by decide, by decide⟩
  · obtain ⟨n, -, rfl⟩ := List.mem_map.mp isPart
    exact isAddressChar_of_mem_hexDigits inside

namespace IpAddr

theorem isAddressChar_of_mem_text {ip : IpAddr} {x : Char} (member : x ∈ ip.text.toList) :
    IsAddressChar x := by
  have marks (mark : String) (all : ∀ c ∈ mark.toList, 0x21 ≤ c.toNat ∧ c.toNat < 0x7F)
      (inMark : x ∈ mark.toList) : IsAddressChar x := all x inMark
  unfold text at member
  split at member
  · exact isAddressChar_of_mem_dotted member
  · rw [String.toList_append, List.mem_append] at member
    rcases member with front | back
    · exact marks "::ffff:" (by simp) front
    · exact isAddressChar_of_mem_dotted back
  · dsimp only at member
    split at member
    · rw [String.toList_append, String.toList_append, List.mem_append, List.mem_append] at member
      rcases member with (front | between) | back
      · exact isAddressChar_of_mem_joinGroups front
      · exact marks "::" (by simp) between
      · exact isAddressChar_of_mem_joinGroups back
    · exact isAddressChar_of_mem_joinGroups member

theorem text_ne_empty {ip : IpAddr} (complete : ip.IsComplete) : ip.text ≠ "" := by
  rw [ne_eq, ← String.toList_eq_nil_iff]
  unfold text
  split
  · rw [toList_dotted]
    exact intercalate_ne_nil (Numeral.digits_ne_nil _) _
  · simp
  · rename_i groups _
    dsimp only
    split
    · simp
    · obtain ⟨group, groups, rfl⟩ := List.exists_cons_of_length_eq_add_one complete
      rw [toList_joinGroups]
      exact intercalate_ne_nil (hexDigits_ne_nil group) _

theorem trimmed_text (ip : IpAddr) : Text.Trimmed ip.text :=
  Text.trimmed_of_plain fun _ member => (isAddressChar_of_mem_text member).notBlank

end IpAddr

end Gatehouse.Net
