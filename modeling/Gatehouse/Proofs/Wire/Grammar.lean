import Gatehouse.Proofs.Wire.Filling

/-!
The grammar of a row of fields.

`Spells depth bytes row` says which fields a byte string stands for, independently of how it is
read: a number may be written with more groups than it needs, fields may have any valid number and
any kind of payload, and groups are nested less than `depth` deep. What the reader accepts is just
what the grammar spells, so that byte strings can be cut and joined wherever a field ends.
-/

namespace Gatehouse

namespace Wire

/-! ## Base-128 numbers -/

/-- Groups of seven bits with the number they stand for, the lowest first. All but the last have the
high bit set; high groups may be zero. -/
inductive Groups : Bytes → Nat → Prop
  | last {b : UInt8} : b.toNat < 128 → Groups [b] b.toNat
  | more {b : UInt8} {bytes : Bytes} {n : Nat} : 128 ≤ b.toNat → Groups bytes n →
    Groups (b :: bytes) (b.toNat - 128 + 128 * n)

/-- A number of 64 bits, written in at most ten groups. -/
structure SpellsNumber (bytes : Bytes) (n : Nat) : Prop where
  groups : Groups bytes n
  short : bytes.length ≤ 10
  fits : n < 0x10000000000000000

theorem Groups.length_pos {bytes : Bytes} {n : Nat} (groups : Groups bytes n) :
    0 < bytes.length := by
  cases groups <;> exact Nat.succ_pos _

theorem readVarint_of_groups {bytes : Bytes} {n : Nat} (groups : Groups bytes n) {limit : Nat}
    (short : bytes.length ≤ limit + 1) (fits : n < 2 * Nat.pow 128 limit) (rest : Bytes) :
    readVarint (limit + 1) (bytes ++ rest) = some (n, rest) := by
  induction groups generalizing limit with
  | @last b low =>
    have room : ¬ (limit = 0 ∧ 2 ≤ b.toNat) := by
      rintro ⟨rfl, large⟩
      have small : b.toNat < 2 := fits
      omega
    rw [List.singleton_append, readVarint, if_pos low, if_neg room]
  | @more b bytes n high groups ih =>
    have positive := groups.length_pos
    rw [List.length_cons] at short
    obtain ⟨limit, rfl⟩ : ∃ fewer, limit = fewer + 1 := ⟨limit - 1, by omega⟩
    have power : Nat.pow 128 (limit + 1) = Nat.pow 128 limit * 128 := rfl
    rw [List.cons_append, readVarint, if_neg (Nat.not_lt.mpr high), ih (by omega) (by omega)]

theorem groups_of_readVarint {limit : Nat} {input rest : Bytes} {n : Nat}
    (read : readVarint (limit + 1) input = some (n, rest)) :
    ∃ bytes, input = bytes ++ rest ∧ Groups bytes n ∧ bytes.length ≤ limit + 1 ∧
      n < 2 * Nat.pow 128 limit := by
  induction limit generalizing input n with
  | zero =>
    cases input with
    | nil => cases read
    | cons b after =>
      rw [readVarint] at read
      split at read
      · rename_i low
        split at read
        · cases read
        · rename_i room
          cases read
          exact ⟨[b], rfl, .last low, Nat.le_refl 1, show b.toNat < 2 by omega⟩
      · cases read
  | succ limit ih =>
    have power : Nat.pow 128 (limit + 1) = Nat.pow 128 limit * 128 := rfl
    cases input with
    | nil => cases read
    | cons b after =>
      have byte := b.toNat_lt
      rw [readVarint] at read
      split at read
      · rename_i low
        have positive : 0 < Nat.pow 128 limit := Nat.pow_pos (by decide)
        split at read
        · cases read
        · cases read
          exact ⟨[b], rfl, .last low, Nat.le_add_left 1 _, by omega⟩
      · rename_i high
        split at read
        · rename_i m left inner
          cases read
          obtain ⟨bytes, rfl, groups, short, fits⟩ := ih inner
          exact ⟨b :: bytes, rfl, .more (Nat.le_of_not_lt high) groups,
            Nat.succ_le_succ short, by omega⟩
        · cases read

theorem SpellsNumber.read {bytes : Bytes} {n : Nat} (spelled : SpellsNumber bytes n)
    (rest : Bytes) : varint? (bytes ++ rest) = some (n, rest) :=
  readVarint_of_groups spelled.groups spelled.short spelled.fits rest

theorem spellsNumber_of_read {input rest : Bytes} {n : Nat}
    (read : varint? input = some (n, rest)) :
    ∃ bytes, input = bytes ++ rest ∧ SpellsNumber bytes n := by
  obtain ⟨bytes, split, groups, short, fits⟩ := groups_of_readVarint read
  exact ⟨bytes, split, groups, short, fits⟩

/-! ## Marks -/

/-- The mark of a field with a valid number. -/
structure SpellsMark (bytes : Bytes) (number kind : Nat) : Prop where
  word : SpellsNumber bytes (number * 8 + kind)
  valid : IsNumber number
  known : kind ≤ 5

namespace SpellsMark

variable {bytes : Bytes} {number kind : Nat}

theorem length_pos (mark : SpellsMark bytes number kind) : 0 < bytes.length :=
  mark.word.groups.length_pos

theorem isEmpty_append (mark : SpellsMark bytes number kind) (rest : Bytes) :
    (bytes ++ rest).isEmpty = false := by
  rw [List.isEmpty_eq_false_iff]
  exact List.append_ne_nil_of_left_ne_nil (List.length_pos_iff.mp mark.length_pos) rest

theorem read (mark : SpellsMark bytes number kind) (rest : Bytes) :
    key? (bytes ++ rest) = some (number, kind, rest) := by
  obtain ⟨word, ⟨positive, small⟩, known⟩ := mark
  have valid : 8 ≤ number * 8 + kind ∧ number * 8 + kind < 0x100000000 ∧
      (number * 8 + kind) % 8 ≤ 5 := by omega
  have quotient : (number * 8 + kind) / 8 = number := by omega
  have remainder : (number * 8 + kind) % 8 = kind := by omega
  rw [key?, word.read]
  dsimp only
  rw [if_pos valid, quotient, remainder]

end SpellsMark

theorem spellsMark_of_read {input rest : Bytes} {number kind : Nat}
    (read : key? input = some (number, kind, rest)) :
    ∃ bytes, input = bytes ++ rest ∧ SpellsMark bytes number kind := by
  rw [key?] at read
  split at read
  · rename_i n left word
    split at read
    · rename_i valid
      cases read
      obtain ⟨bytes, split, spelled⟩ := spellsNumber_of_read word
      have parts : n / 8 * 8 + n % 8 = n := Nat.div_add_mod' n 8
      exact ⟨bytes, split, parts.symm ▸ spelled, ⟨by omega, by omega⟩, valid.2.2⟩
    · cases read
  · cases read

theorem take?_of_length {n : Nat} {value : Bytes} (length : value.length = n) (rest : Bytes) :
    take? n (value ++ rest) = some (value, rest) :=
  length ▸ take?_append value rest

theorem eq_append_of_take? {n : Nat} {input taken rest : Bytes}
    (read : take? n input = some (taken, rest)) : input = taken ++ rest ∧ taken.length = n := by
  dsimp only [take?] at read
  split at read
  · rename_i enough
    cases read
    exact ⟨(List.take_append_drop n input).symm, enough⟩
  · cases read

/-! ## Rows -/

mutual

/-- A field as it may be written, with groups inside it nested at most `depth` deep. -/
inductive SpellsField : (depth : Nat) → Bytes → Field → Prop
  | varint {depth number value : Nat} {mark bytes : Bytes} :
    SpellsMark mark number 0 → SpellsNumber bytes value →
    SpellsField depth (mark ++ bytes) (.varint number value)
  | fixed64 {depth number : Nat} {mark value : Bytes} :
    SpellsMark mark number 1 → value.length = 8 →
    SpellsField depth (mark ++ value) (.fixed64 number value)
  | bytes {depth number : Nat} {mark length value : Bytes} :
    SpellsMark mark number 2 → SpellsNumber length value.length →
    SpellsField depth (mark ++ (length ++ value)) (.bytes number value)
  | group {depth number : Nat} {mark inside close : Bytes} {fields : List Field} :
    SpellsMark mark number 3 → Spells depth inside fields → SpellsMark close number 4 →
    SpellsField depth (mark ++ (inside ++ close)) (.group number fields)
  | fixed32 {depth number : Nat} {mark value : Bytes} :
    SpellsMark mark number 5 → value.length = 4 →
    SpellsField depth (mark ++ value) (.fixed32 number value)

/-- A row of fields as it may be written. It takes a level, and what is in its groups the next. -/
inductive Spells : (depth : Nat) → Bytes → List Field → Prop
  | nil {depth : Nat} : Spells depth [] []
  | cons {depth : Nat} {bytes more : Bytes} {field : Field} {row : List Field} :
    SpellsField depth bytes field → Spells (depth + 1) more row →
    Spells (depth + 1) (bytes ++ more) (field :: row)

end

/-- Rows stand one after the other. -/
theorem Spells.append {depth : Nat} {bytes more : Bytes} {row others : List Field}
    (first : Spells depth bytes row) (second : Spells depth more others) :
    Spells depth (bytes ++ more) (row ++ others) := by
  induction row generalizing bytes with
  | nil =>
    cases first
    exact second
  | cons field row ih =>
    obtain _ | ⟨spelled, rest⟩ := first
    rw [List.append_assoc, List.cons_append]
    exact .cons spelled (ih rest)

/-! ## Reading -/

/-- What ends a row: the mark that closes its group, or else the end of the input. -/
def Ends (closing : Option Nat) (close rest : Bytes) : Prop :=
  match closing with
  | some number => SpellsMark close number 4
  | none => close = [] ∧ rest = []

namespace Field

/-- Whatever its kind, a field that is read goes in front of what is read after it. -/
theorem spells_next {fuel depth : Nat} {closing : Option Nat} {bytes after rest : Bytes}
    {field : Field} {row : List Field}
    (behind : ∀ {row : List Field} {rest : Bytes},
      readFrom fuel (depth + 1) closing after = some (row, rest) →
        ∃ others close, after = others ++ (close ++ rest) ∧ Spells (depth + 1) others row ∧
          Ends closing close rest)
    (spelled : SpellsField depth bytes field)
    (read : (match readFrom fuel (depth + 1) closing after with
      | some (fields, rest) => some (field :: fields, rest)
      | none => none) = some (row, rest)) :
    ∃ all close, bytes ++ after = all ++ (close ++ rest) ∧ Spells (depth + 1) all row ∧
      Ends closing close rest := by
  split at read
  · rename_i fields left more
    cases read
    obtain ⟨others, close, rfl, spelledToo, ends⟩ := behind more
    exact ⟨bytes ++ others, close, by rw [List.append_assoc], .cons spelled spelledToo, ends⟩
  · cases read

/-- What is read is spelled by the bytes that are gone. -/
theorem spells_of_readFrom {fuel depth : Nat} {closing : Option Nat} {input rest : Bytes}
    {row : List Field} (read : readFrom fuel depth closing input = some (row, rest)) :
    ∃ bytes close, input = bytes ++ (close ++ rest) ∧ Spells depth bytes row ∧
      Ends closing close rest := by
  induction fuel generalizing depth closing input rest row with
  | zero => cases read
  | succ fuel ih =>
    rw [readFrom] at read
    split at read
    · rename_i done
      cases read
      rw [List.isEmpty_iff, Option.isNone_iff_eq_none] at done
      obtain ⟨rfl, rfl⟩ := done
      exact ⟨[], [], rfl, .nil, rfl, rfl⟩
    split at read
    · cases read
    rename_i number kind after key
    obtain ⟨mark, rfl, marked⟩ := spellsMark_of_read key
    split at read
    · rename_i closes
      subst closes
      split at read
      · rename_i same
        cases read
        subst same
        exact ⟨[], mark, rfl, .nil, marked⟩
      · cases read
    cases depth with
    | zero => cases read
    | succ depth =>
      dsimp only at read
      split at read
      · rename_i varint
        subst varint
        split at read
        · rename_i value left number
          obtain ⟨bytes, rfl, spelled⟩ := spellsNumber_of_read number
          rw [← List.append_assoc]
          exact spells_next ih (.varint marked spelled) read
        · cases read
      split at read
      · rename_i fixed
        subst fixed
        split at read
        · rename_i value left taken
          obtain ⟨rfl, length⟩ := eq_append_of_take? taken
          rw [← List.append_assoc]
          exact spells_next ih (.fixed64 marked length) read
        · cases read
      split at read
      · rename_i string
        subst string
        split at read
        · rename_i length left number
          obtain ⟨bytes, rfl, spelled⟩ := spellsNumber_of_read number
          split at read
          · rename_i value left taken
            obtain ⟨rfl, rfl⟩ := eq_append_of_take? taken
            rw [← List.append_assoc bytes, ← List.append_assoc]
            exact spells_next ih (.bytes marked spelled) read
          · cases read
        · cases read
      split at read
      · rename_i group
        subst group
        split at read
        · rename_i fields left inside
          obtain ⟨bytes, close, rfl, spelled, closed⟩ := ih inside
          rw [← List.append_assoc bytes, ← List.append_assoc]
          exact spells_next ih (.group marked spelled closed) read
        · cases read
      · have fixed : kind = 5 := by
          have known := marked.known
          omega
        subst fixed
        split at read
        · rename_i value left taken
          obtain ⟨rfl, length⟩ := eq_append_of_take? taken
          rw [← List.append_assoc]
          exact spells_next ih (.fixed32 marked length) read
        · cases read

/-- What is spelled is read, whatever comes after its end. -/
theorem readFrom_of_spells {fuel depth : Nat} {closing : Option Nat} {bytes close rest : Bytes}
    {row : List Field} (spelled : Spells depth bytes row) (ends : Ends closing close rest)
    (enough : bytes.length < fuel) :
    readFrom fuel depth closing (bytes ++ (close ++ rest)) = some (row, rest) := by
  induction fuel generalizing depth closing bytes close rest row with
  | zero => exact absurd enough (Nat.not_lt_zero _)
  | succ fuel ih =>
    cases spelled with
    | nil =>
      cases closing with
      | none =>
        obtain ⟨rfl, rfl⟩ := ends
        rfl
      | some number =>
        change SpellsMark close number 4 at ends
        rw [List.nil_append, readFrom, ends.read]
        simp only [Option.isNone_some, Bool.false_eq_true, and_false, if_false, if_true]
    | @cons depth first more field row spelled others =>
      rw [List.length_append] at enough
      cases spelled with
      | varint marked spelled =>
        have positive := marked.length_pos
        rw [List.length_append] at enough
        have remaining := ih others ends (by omega)
        rw [List.append_assoc, List.append_assoc, readFrom, marked.read, marked.isEmpty_append]
        simp only [Bool.false_eq_true, false_and, if_false, reduceCtorEq, spelled.read, remaining,
          if_true]
      | fixed64 marked length =>
        have positive := marked.length_pos
        rw [List.length_append] at enough
        have remaining := ih others ends (by omega)
        rw [List.append_assoc, List.append_assoc, readFrom, marked.read, marked.isEmpty_append]
        simp only [Bool.false_eq_true, false_and, if_false, reduceCtorEq, take?_of_length length,
          remaining, Nat.reduceEqDiff, if_true]
      | bytes marked spelled =>
        have positive := marked.length_pos
        rw [List.length_append] at enough
        have remaining := ih others ends (by omega)
        rw [List.append_assoc, List.append_assoc, List.append_assoc, readFrom, marked.read,
          marked.isEmpty_append]
        simp only [Bool.false_eq_true, false_and, if_false, reduceCtorEq, spelled.read,
          take?_append, remaining, Nat.reduceEqDiff, if_true]
      | group marked inside closed =>
        have positive := marked.length_pos
        rw [List.length_append, List.length_append] at enough
        have remaining := ih others ends (by omega)
        have within := ih inside (show Ends (some _) _ (more ++ (close ++ rest)) from closed)
          (by omega)
        rw [List.append_assoc, List.append_assoc, List.append_assoc, readFrom, marked.read,
          marked.isEmpty_append]
        simp only [Bool.false_eq_true, false_and, if_false, reduceCtorEq, within, remaining,
          Nat.reduceEqDiff, if_true]
      | fixed32 marked length =>
        have positive := marked.length_pos
        rw [List.length_append] at enough
        have remaining := ih others ends (by omega)
        rw [List.append_assoc, List.append_assoc, readFrom, marked.read, marked.isEmpty_append]
        simp only [Bool.false_eq_true, false_and, if_false, reduceCtorEq, take?_of_length length,
          remaining, Nat.reduceEqDiff]

/-- A byte string is read as a row just if it spells it. -/
theorem read_eq_some_iff {depth : Nat} {bytes : Bytes} {row : List Field} :
    read depth bytes = some row ↔ Spells depth bytes row := by
  constructor
  · intro read
    obtain ⟨⟨same, rest⟩, found, rfl⟩ := Option.map_eq_some_iff.mp read
    obtain ⟨spelling, close, rfl, spelled, rfl, rfl⟩ := spells_of_readFrom found
    rw [List.append_nil, List.append_nil]
    exact spelled
  · intro spelled
    have found := readFrom_of_spells spelled (show Ends none [] [] from ⟨rfl, rfl⟩)
      (Nat.lt_succ_self _)
    rw [List.append_nil, List.append_nil] at found
    rw [read, found, Option.map_some]

end Field

end Wire

end Gatehouse
