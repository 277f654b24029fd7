import Gatehouse.Proofs.Text.RoundTrip
import Mathlib.Data.List.Induction
import Mathlib.Data.Nat.Digits.Defs

/-!
Spellings of numbers and of bytes.

`Proofs/Text/RoundTrip` says that what is written is read back. Here it is said which texts are read
at all, and as what: every row of decimal digits, with leading zeros or not, behind a sign or
without one, and every row of pairs of hexadecimal digits, whatever case each of them has. The
canonical numerals are those that the library prints.
-/

namespace Gatehouse

namespace Numeral

/-! ## Decimal digits -/

/-- A text is a row of decimal digits, at least one, that denotes a number. -/
def Denotes (cs : List Char) (n : Nat) : Prop :=
  ∃ ds : List Nat, ds ≠ [] ∧ (∀ d ∈ ds, d < 10) ∧ cs = ds.map Nat.digitChar ∧
    n = Nat.ofDigits 10 ds.reverse

/-- A text denotes an integer: digits, perhaps behind a sign. -/
inductive DenotesInt : List Char → Int → Prop
  | plain {cs : List Char} {n : Nat} (digits : Denotes cs n) : DenotesInt cs n
  | plus {cs : List Char} {n : Nat} (digits : Denotes cs n) : DenotesInt ('+' :: cs) n
  | minus {cs : List Char} {n : Nat} (digits : Denotes cs n) : DenotesInt ('-' :: cs) (-n)

theorem digitChar_eq {d : Nat} (small : d < 10) : Nat.digitChar d = Char.ofNat (48 + d) := by
  have each : ∀ d : Fin 10, Nat.digitChar d.val = Char.ofNat (48 + d.val) := by decide
  exact each ⟨d, small⟩

theorem natOfDigits_map {ds : List Nat} (small : ∀ d ∈ ds, d < 10) :
    natOfDigits (ds.map Nat.digitChar) = Nat.ofDigits 10 ds.reverse := by
  induction ds using List.reverseRecOn with
  | nil => rfl
  | append_singleton rest d ih =>
    have last : d < 10 := small d (List.mem_append_right _ List.mem_cons_self)
    have remaining := ih fun other member => small other (List.mem_append_left _ member)
    rw [List.map_append, List.map_singleton, natOfDigits_append, remaining, digitChar_eq last,
      toNat_ofNat last, List.reverse_append, List.reverse_singleton, List.singleton_append,
      Nat.ofDigits_cons]
    omega

theorem exists_digits {cs : List Char} (all : ∀ c ∈ cs, isDigit c = true) :
    ∃ ds : List Nat, (∀ d ∈ ds, d < 10) ∧ cs = ds.map Nat.digitChar := by
  induction cs with
  | nil => exact ⟨[], nofun, rfl⟩
  | cons c rest ih =>
    obtain ⟨ds, small, rfl⟩ := ih fun other member => all other (List.mem_cons_of_mem _ member)
    have digit := all c List.mem_cons_self
    have range := toNat_of_isDigit digit
    have first : c.toNat - 48 < 10 := by omega
    refine ⟨(c.toNat - 48) :: ds, List.forall_mem_cons.mpr ⟨first, small⟩, ?_⟩
    rw [List.map_cons, digitChar_eq first, ofNat_of_isDigit digit]

/-- Digits are read, and nothing else. -/
theorem nat?_eq_some_iff {cs : List Char} {n : Nat} : nat? cs = some n ↔ Denotes cs n := by
  constructor
  · intro read
    unfold nat? at read
    split at read
    · cases read
    · rename_i nonempty
      split at read
      · rename_i all
        obtain ⟨ds, small, rfl⟩ := exists_digits (List.all_eq_true.mp all)
        refine ⟨ds, ?_, small, rfl, ?_⟩
        · rintro rfl
          exact nonempty rfl
        · rw [← natOfDigits_map small]
          exact (Option.some.inj read).symm
      · cases read
  · rintro ⟨ds, nonempty, small, rfl, rfl⟩
    have some : (ds.map Nat.digitChar).isEmpty = false := by
      rw [List.isEmpty_map]
      exact List.isEmpty_eq_false_iff.mpr nonempty
    have all : (ds.map Nat.digitChar).all isDigit = true := by
      refine List.all_eq_true.mpr fun c member => ?_
      obtain ⟨d, digit, rfl⟩ := List.mem_map.mp member
      rw [digitChar_eq (small d digit)]
      exact isDigit_ofNat (small d digit)
    rw [nat?, some, all, if_neg Bool.false_ne_true, if_pos rfl, natOfDigits_map small]

theorem Denotes.isDigit_head {c : Char} {cs : List Char} {n : Nat} (digits : Denotes (c :: cs) n) :
    isDigit c = true := by
  obtain ⟨ds, -, small, same, -⟩ := digits
  cases ds with
  | nil => cases same
  | cons d rest =>
    rw [(List.cons.inj same).1, digitChar_eq (small d List.mem_cons_self)]
    exact isDigit_ofNat (small d List.mem_cons_self)

theorem int?_minus (cs : List Char) :
    int? ('-' :: cs) = (nat? cs).map fun n : Nat => -(n : Int) := by
  rw [int?]
  cases nat? cs <;> rfl

theorem int?_plus (cs : List Char) :
    int? ('+' :: cs) = (nat? cs).map fun n : Nat => (n : Int) := by
  rw [int?]
  cases nat? cs <;> rfl

theorem int?_plain {cs : List Char} (minus : ∀ rest, cs ≠ '-' :: rest)
    (plus : ∀ rest, cs ≠ '+' :: rest) : int? cs = (nat? cs).map fun n : Nat => (n : Int) := by
  unfold int?
  split
  · exact absurd rfl (minus _)
  · exact absurd rfl (plus _)
  · cases nat? cs <;> rfl

theorem int?_eq_some_iff {cs : List Char} {i : Int} : int? cs = some i ↔ DenotesInt cs i := by
  constructor
  · intro read
    by_cases minus : ∃ rest, cs = '-' :: rest
    · obtain ⟨rest, rfl⟩ := minus
      rw [int?_minus] at read
      obtain ⟨n, digits, rfl⟩ := Option.map_eq_some_iff.mp read
      exact .minus (nat?_eq_some_iff.mp digits)
    · by_cases plus : ∃ rest, cs = '+' :: rest
      · obtain ⟨rest, rfl⟩ := plus
        rw [int?_plus] at read
        obtain ⟨n, digits, rfl⟩ := Option.map_eq_some_iff.mp read
        exact .plus (nat?_eq_some_iff.mp digits)
      · rw [int?_plain (not_exists.mp minus) (not_exists.mp plus)] at read
        obtain ⟨n, digits, rfl⟩ := Option.map_eq_some_iff.mp read
        exact .plain (nat?_eq_some_iff.mp digits)
  · intro denotes
    cases denotes with
    | plain digits =>
      have unsigned (sign : Char) (noDigit : isDigit sign = false) (rest : List Char) :
          cs ≠ sign :: rest := by
        rintro rfl
        rw [digits.isDigit_head] at noDigit
        cases noDigit
      rw [int?_plain (unsigned '-' rfl) (unsigned '+' rfl), nat?_eq_some_iff.mpr digits]
      rfl
    | plus digits =>
      rw [int?_plus, nat?_eq_some_iff.mpr digits]
      rfl
    | minus digits =>
      rw [int?_minus, nat?_eq_some_iff.mpr digits]
      rfl

theorem int64?_eq_some_iff {cs : List Char} {i : Int} :
    int64? cs = some i ↔
      DenotesInt cs i ∧ -0x8000000000000000 ≤ i ∧ i < 0x8000000000000000 := by
  rw [int64?, Option.filter_eq_some_iff, int?_eq_some_iff, fitsInt64, Bool.and_eq_true,
    decide_eq_true_eq, decide_eq_true_eq]

/-! ## Canonical numerals -/

theorem digits_eq (n : Nat) : digits n = Nat.toDigits 10 n := by
  induction n using digits.induct with
  | case1 n small => rw [digits, if_pos small, Nat.toDigits_of_lt_base small, digitChar_eq small]
  | case2 n large ih =>
    have last : n % 10 < 10 := Nat.mod_lt n (by decide)
    rw [digits, if_neg large, ih, Nat.toDigits_of_base_le (by decide) (Nat.not_lt.mp large),
      digitChar_eq last]

theorem intText_eq (i : Int) : intText i = toString i := by
  cases i with
  | ofNat n =>
    have nonnegative : ¬ Int.ofNat n < 0 := Int.not_lt.mpr (Int.natCast_nonneg n)
    rw [intText, intDigits, if_neg nonnegative, digits_eq]
    rfl
  | negSucc n =>
    rw [intText, intDigits, if_pos (Int.negSucc_lt_zero n), digits_eq, ← List.singleton_append,
      String.ofList_append]
    rfl

end Numeral

namespace Hex

/-! ## Hexadecimal digits -/

/-- A text spells bytes: two digits for each of them, the higher half first, in either case. -/
inductive Spells : List Char → Bytes → Prop
  | nil : Spells [] []
  | byte {high low : Char} {cs : List Char} {b : UInt8} {bytes : Bytes}
    (upper : high.toLower = Nat.digitChar (b.toNat / 16))
    (lower : low.toLower = Nat.digitChar (b.toNat % 16)) (rest : Spells cs bytes) :
    Spells (high :: low :: cs) (b :: bytes)

theorem toNat_le_toLower (c : Char) : c.toNat ≤ c.toLower.toNat := by
  unfold Char.toLower
  split
  · rename_i range
    have most : c.val.toNat ≤ 90 := UInt32.le_iff_toNat_le.mp range.2
    change c.val.toNat ≤ (c.val + 32).toNat
    rw [UInt32.toNat_add]
    change _ ≤ (c.val.toNat + 32) % 4294967296
    omega
  · exact Nat.le_refl _

theorem value?_le {c : Char} {n : Nat} (found : value? c = some n) : c.toNat ≤ 102 := by
  unfold value? at found
  simp only [Bool.and_eq_true, decide_eq_true_eq, Char.le_def, UInt32.le_iff_toNat_le] at found
  split at found
  · rename_i range
    exact Nat.le_trans range.2 (by decide)
  · split at found
    · rename_i range
      exact range.2
    · split at found
      · rename_i range
        exact Nat.le_trans range.2 (by decide)
      · cases found

theorem digitChar_le {n : Nat} (small : n < 16) : (Nat.digitChar n).toNat ≤ 102 := by
  have each : ∀ n : Fin 16, (Nat.digitChar n.val).toNat ≤ 102 := by decide
  exact each ⟨n, small⟩

/-- A digit of either case has the value of the small one. -/
theorem value?_eq_some_iff {c : Char} {n : Nat} (small : n < 16) :
    value? c = some n ↔ c.toLower = Nat.digitChar n := by
  have each : ∀ (k : Fin 103) (n : Fin 16),
      value? (Char.ofNat k.val) = some n.val ↔
        (Char.ofNat k.val).toLower = Nat.digitChar n.val := by
    decide +kernel
  have within (bounded : c.toNat ≤ 102) : value? c = some n ↔ c.toLower = Nat.digitChar n := by
    have here := each ⟨c.toNat, Nat.lt_succ_of_le bounded⟩ ⟨n, small⟩
    rwa [Char.ofNat_toNat] at here
  constructor
  · intro found
    exact (within (value?_le found)).mp found
  · intro same
    have bounded : c.toLower.toNat ≤ 102 := by
      rw [same]
      exact digitChar_le small
    exact (within (Nat.le_trans (toNat_le_toLower c) bounded)).mpr same

theorem Spells.length_eq {cs : List Char} {bytes : Bytes} (spells : Spells cs bytes) :
    cs.length = 2 * bytes.length := by
  induction spells with
  | nil => rfl
  | byte upper lower rest ih =>
    rw [List.length_cons, List.length_cons, List.length_cons, ih]
    omega

theorem toNat_halves {h l : Nat} (high : h < 16) (low : l < 16) :
    (UInt8.ofNat (h * 16 + l)).toNat / 16 = h ∧ (UInt8.ofNat (h * 16 + l)).toNat % 16 = l := by
  have word : (UInt8.ofNat (h * 16 + l)).toNat = h * 16 + l := by
    rw [UInt8.toNat_ofNat']
    omega
  omega

/-- Pairs of digits are read, and nothing else. -/
theorem decode_eq_some_iff {cs : List Char} {bytes : Bytes} :
    decode cs = some bytes ↔ Spells cs bytes := by
  constructor
  · intro read
    induction cs using decode.induct generalizing bytes with
    | case1 =>
      cases read
      exact .nil
    | case2 => cases read
    | case3 high low rest ih =>
      rw [decode] at read
      obtain ⟨h, isHigh, read⟩ := Option.bind_eq_some_iff.mp read
      obtain ⟨l, isLow, read⟩ := Option.bind_eq_some_iff.mp read
      obtain ⟨later, readLater, same⟩ := Option.bind_eq_some_iff.mp read
      cases same
      obtain ⟨upper, lower⟩ := toNat_halves (value?_lt isHigh) (value?_lt isLow)
      refine .byte ?_ ?_ (ih readLater)
      · rw [upper]
        exact (value?_eq_some_iff (value?_lt isHigh)).mp isHigh
      · rw [lower]
        exact (value?_eq_some_iff (value?_lt isLow)).mp isLow
  · intro spells
    induction spells with
    | nil => rfl
    | @byte high low cs b bytes upper lower rest ih =>
      have isHigh : b.toNat / 16 < 16 := by
        have := b.toNat_lt
        omega
      have isLow : b.toNat % 16 < 16 := Nat.mod_lt _ (by decide)
      have joined : b.toNat / 16 * 16 + b.toNat % 16 = b.toNat := by omega
      rw [decode, (value?_eq_some_iff isHigh).mpr upper, (value?_eq_some_iff isLow).mpr lower, ih]
      change some (UInt8.ofNat (b.toNat / 16 * 16 + b.toNat % 16) :: bytes) = some (b :: bytes)
      rw [joined, UInt8.ofNat_toNat]

/-- What is written in small letters may be presented in capitals. -/
theorem spells_capitals (bytes : Bytes) : Spells ((encode bytes).map Char.toUpper) bytes := by
  have each : ∀ n : Fin 16, (digit n.val).toUpper.toLower = Nat.digitChar n.val := by decide
  induction bytes with
  | nil => exact .nil
  | cons b rest ih =>
    have high : b.toNat / 16 < 16 := by
      have := b.toNat_lt
      omega
    have low : b.toNat % 16 < 16 := Nat.mod_lt _ (by decide)
    exact .byte (each ⟨_, high⟩) (each ⟨_, low⟩) ih

end Hex

end Gatehouse
