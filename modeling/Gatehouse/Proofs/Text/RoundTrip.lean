import Gatehouse.Text.Hex
import Gatehouse.Text.Numeral

/-!
Texts that are read back.

The decimal numeral of an integer and the hexadecimal text of a byte string denote what they were
written for. The readers take more than that, so nothing is said here about the other way round.
-/

namespace Gatehouse

namespace Numeral

theorem isDigit_ofNat {d : Nat} (small : d < 10) : isDigit (Char.ofNat (48 + d)) = true := by
  have each : ∀ d : Fin 10, isDigit (Char.ofNat (48 + d.val)) = true := by decide
  exact each ⟨d, small⟩

theorem toNat_ofNat {d : Nat} (small : d < 10) : (Char.ofNat (48 + d)).toNat - 48 = d := by
  have each : ∀ d : Fin 10, (Char.ofNat (48 + d.val)).toNat - 48 = d.val := by decide
  exact each ⟨d, small⟩

theorem toNat_of_isDigit {c : Char} (digit : isDigit c = true) :
    48 ≤ c.toNat ∧ c.toNat ≤ 57 := by
  simp only [isDigit, Bool.and_eq_true, decide_eq_true_eq, Char.le_def,
    UInt32.le_iff_toNat_le] at digit
  exact digit

theorem ofNat_of_isDigit {c : Char} (digit : isDigit c = true) :
    Char.ofNat (48 + (c.toNat - 48)) = c := by
  have range := toNat_of_isDigit digit
  rw [Nat.add_sub_cancel' range.1, Char.ofNat_toNat]

theorem digits_ne_nil (n : Nat) : digits n ≠ [] := by
  unfold digits
  split
  · exact List.cons_ne_nil _ _
  · exact List.append_ne_nil_of_right_ne_nil _ (List.cons_ne_nil _ _)

theorem isDigit_of_mem_digits {n : Nat} {c : Char} (member : c ∈ digits n) : isDigit c = true := by
  induction n using digits.induct with
  | case1 n small =>
    rw [digits, if_pos small, List.mem_singleton] at member
    rw [member]
    exact isDigit_ofNat small
  | case2 n large ih =>
    rw [digits, if_neg large, List.mem_append, List.mem_singleton] at member
    rcases member with earlier | last
    · exact ih earlier
    · rw [last]
      exact isDigit_ofNat (Nat.mod_lt n (by decide))

theorem natOfDigits_append (cs : List Char) (c : Char) :
    natOfDigits (cs ++ [c]) = natOfDigits cs * 10 + (c.toNat - 48) := by
  simp only [natOfDigits, List.foldl_append, List.foldl_cons, List.foldl_nil]

theorem natOfDigits_digits (n : Nat) : natOfDigits (digits n) = n := by
  induction n using digits.induct with
  | case1 n small =>
    rw [digits, if_pos small]
    simp only [natOfDigits, List.foldl_cons, List.foldl_nil, toNat_ofNat small, Nat.zero_mul,
      Nat.zero_add]
  | case2 n large ih =>
    rw [digits, if_neg large, natOfDigits_append, ih, toNat_ofNat (Nat.mod_lt n (by decide))]
    omega

theorem nat?_digits (n : Nat) : nat? (digits n) = some n := by
  have nonempty : (digits n).isEmpty = false := by
    cases cs : digits n with
    | nil => exact absurd cs (digits_ne_nil n)
    | cons c rest => rfl
  have allDigits : (digits n).all isDigit = true :=
    List.all_eq_true.mpr fun c member => isDigit_of_mem_digits member
  simp only [nat?, nonempty, allDigits, Bool.false_eq_true, if_false, if_true, natOfDigits_digits]

/-- A numeral without a sign is read as one. -/
theorem int?_of_isDigit {c : Char} (rest : List Char) (digit : isDigit c = true) :
    int? (c :: rest) = (nat? (c :: rest)).map fun n => (n : Int) := by
  unfold int?
  split
  · rename_i same
    cases same
    exact absurd digit (by decide)
  · rename_i same
    cases same
    exact absurd digit (by decide)
  · rfl

theorem int?_intDigits (i : Int) : int? (intDigits i) = some i := by
  unfold intDigits
  split
  · rename_i negative
    rw [int?, nat?_digits]
    change some (-(i.natAbs : Int)) = some i
    rw [Int.ofNat_natAbs_of_nonpos (Int.le_of_lt negative), Int.neg_neg]
  · rename_i nonnegative
    cases cs : digits i.natAbs with
    | nil => exact absurd cs (digits_ne_nil _)
    | cons c rest =>
      have digit : isDigit c = true := isDigit_of_mem_digits (n := i.natAbs) (by
        rw [cs]
        exact List.mem_cons_self)
      rw [int?_of_isDigit rest digit, ← cs, nat?_digits]
      change some (i.natAbs : Int) = some i
      rw [Int.natAbs_of_nonneg (Int.not_lt.mp nonnegative)]

theorem int64?_intDigits {i : Int} (fits : fitsInt64 i = true) : int64? (intDigits i) = some i := by
  rw [int64?, int?_intDigits, Option.filter_some, if_pos fits]

theorem fitsInt64_toInt (i : Int64) : fitsInt64 i.toInt = true := by
  have lowest := i.le_toInt
  have highest := i.toInt_lt
  simp only [fitsInt64, Bool.and_eq_true, decide_eq_true_eq]
  omega

theorem colon_notMem_intDigits (i : Int) : ':' ∉ intDigits i := by
  intro member
  have digitOrMinus : isDigit ':' = true ∨ ':' = '-' := by
    unfold intDigits at member
    split at member
    · rcases List.mem_cons.mp member with minus | digit
      · exact Or.inr minus
      · exact Or.inl (isDigit_of_mem_digits digit)
    · exact Or.inl (isDigit_of_mem_digits member)
  exact absurd digitOrMinus (by decide)

end Numeral

namespace Hex

theorem value?_digit {n : Nat} (small : n < 16) : value? (digit n) = some n := by
  have each : ∀ n : Fin 16, value? (digit n.val) = some n.val := by decide
  exact each ⟨n, small⟩

theorem value?_lt {c : Char} {n : Nat} (found : value? c = some n) : n < 16 := by
  unfold value? at found
  simp only [Bool.and_eq_true, decide_eq_true_eq, Char.le_def, UInt32.le_iff_toNat_le] at found
  split at found
  · rename_i range
    cases found
    have atMost : c.toNat ≤ 57 := range.2
    omega
  · split at found
    · rename_i range
      cases found
      have atMost : c.toNat ≤ 102 := range.2
      omega
    · split at found
      · rename_i range
        cases found
        have atMost : c.toNat ≤ 70 := range.2
        omega
      · cases found

theorem decode_encode (bytes : Bytes) : decode (encode bytes) = some bytes := by
  induction bytes with
  | nil => rfl
  | cons b rest ih =>
    have high : b.toNat / 16 < 16 := by
      have := b.toNat_lt
      omega
    have low : b.toNat % 16 < 16 := Nat.mod_lt _ (by decide)
    have joined : b.toNat / 16 * 16 + b.toNat % 16 = b.toNat := by omega
    change decode (digit (b.toNat / 16) :: digit (b.toNat % 16) :: encode rest) = some (b :: rest)
    rw [decode, value?_digit high, value?_digit low, ih]
    change some (UInt8.ofNat (b.toNat / 16 * 16 + b.toNat % 16) :: rest) = some (b :: rest)
    rw [joined, UInt8.ofNat_toNat]

end Hex

end Gatehouse
