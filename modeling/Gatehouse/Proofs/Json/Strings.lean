import Gatehouse.Json.Printer
import Gatehouse.Proofs.Json.Grammar
import Gatehouse.Proofs.Text.RoundTrip

/-!
Strings of a JSON text.

What is read up to the closing quote is what the text before it spells, and every text that spells
something is read. What is written for a string spells it, in no more bytes than any other text that
spells it.
-/

namespace Gatehouse.Json

/-! ## Code units -/

theorem hex4_eq_some_iff {a b c d : Char} {unit : Nat} :
    hex4 a b c d = some unit ↔ CodeUnit [a, b, c, d] unit := by
  constructor
  · intro found
    simp only [hex4, Option.bind_eq_bind, Option.bind_eq_some_iff, Option.some.injEq] at found
    obtain ⟨w, first, x, second, y, third, z, fourth, rfl⟩ := found
    have same : ((w * 16 + x) * 16 + y) * 16 + z = w * 0x1000 + x * 0x100 + y * 0x10 + z := by omega
    rw [same]
    exact .digits first second third fourth
  · rintro ⟨first, second, third, fourth⟩
    simp only [hex4, first, second, third, fourth, Option.bind_eq_bind, Option.bind_some,
      Option.some.injEq]
    omega

theorem CodeUnit.exists_digits {digits : List Char} {unit : Nat} (value : CodeUnit digits unit) :
    ∃ a b c d, digits = [a, b, c, d] ∧ hex4 a b c d = some unit := by
  cases value with
  | digits first second third fourth =>
    exact ⟨_, _, _, _, rfl, hex4_eq_some_iff.mpr (.digits first second third fourth)⟩

theorem CodeUnit.lt {digits : List Char} {unit : Nat} (value : CodeUnit digits unit) :
    unit < 0x10000 := by
  obtain ⟨first, second, third, fourth⟩ := value
  have := Hex.value?_lt first
  have := Hex.value?_lt second
  have := Hex.value?_lt third
  have := Hex.value?_lt fourth
  omega

/-! ## Reading -/

theorem mem_shortEscapes_iff {letter c : Char} :
    (letter, c) ∈ shortEscapes ↔ shortEscape? letter = some c := by
  constructor
  · intro member
    simp only [shortEscapes, List.mem_cons, Prod.mk.injEq, List.not_mem_nil, or_false] at member
    rcases member with ⟨rfl, rfl⟩ | ⟨rfl, rfl⟩ | ⟨rfl, rfl⟩ | ⟨rfl, rfl⟩ | ⟨rfl, rfl⟩ | ⟨rfl, rfl⟩ |
      ⟨rfl, rfl⟩ | ⟨rfl, rfl⟩ <;> rfl
  · intro found
    unfold shortEscape? at found
    split at found
    · rename_i itself
      cases found
      rcases itself with rfl | rfl | rfl <;> decide
    · iterate 5
        split at found
        · rename_i same
          cases found
          rw [same]
          decide
      cases found

theorem toNat_ofNat_of_isValidChar {n : Nat} (valid : n.isValidChar) :
    (Char.ofNat n).toNat = n := by
  rw [Char.ofNat, dif_pos valid]
  rfl

/-- What is read up to a quote is what the text before the quote spells. -/
theorem spells_of_stringBody {seen cs rest : List Char} {s : String}
    (read : stringBody seen cs = some (s, rest)) :
    ∃ text spelled, cs = text ++ '"' :: rest ∧ Spells text spelled ∧
      s = String.ofList (seen.reverse ++ spelled) := by
  fun_induction stringBody seen cs with
  | case2 seen rest =>
    cases read
    exact ⟨[], [], rfl, .nil, by rw [List.append_nil]⟩
  | case4 seen a b c d more unit found single ih =>
    obtain ⟨text, spelled, same, spells, isString⟩ := ih read
    have value := hex4_eq_some_iff.mp found
    have valid : unit.isValidChar := by
      have := value.lt
      unfold Nat.isValidChar
      omega
    rw [← toNat_ofNat_of_isValidChar valid] at value
    refine ⟨_, _, ?_, .unit value spells, ?_⟩
    · rw [same]
      rfl
    · rw [isString, List.reverse_cons, List.append_assoc, List.singleton_append]
  | case7 seen a b c d unit found surrogate first e f g h more low foundLow second point ih =>
    obtain ⟨text, spelled, same, spells, isString⟩ := ih read
    have high : 0xD800 + (unit - 0xD800) = unit := by omega
    have isLow : 0xDC00 + (low - 0xDC00) = low := by omega
    have value : CodeUnit [a, b, c, d] (0xD800 + (unit - 0xD800)) := by
      rw [high]
      exact hex4_eq_some_iff.mp found
    have valueLow : CodeUnit [e, f, g, h] (0xDC00 + (low - 0xDC00)) := by
      rw [isLow]
      exact hex4_eq_some_iff.mp foundLow
    have valid : point.isValidChar := by
      unfold Nat.isValidChar
      omega
    refine ⟨_, _, ?_, .pair value valueLow (by omega) (by omega)
      (toNat_ofNat_of_isValidChar valid) spells, ?_⟩
    · rw [same]
      rfl
    · rw [isString, List.reverse_cons, List.append_assoc, List.singleton_append]
  | case10 seen letter more notUnit c found ih =>
    obtain ⟨text, spelled, same, spells, isString⟩ := ih read
    refine ⟨_, _, ?_, .short (mem_shortEscapes_iff.mpr found) spells, ?_⟩
    · rw [same]
      rfl
    · rw [isString, List.reverse_cons, List.append_assoc, List.singleton_append]
  | case13 seen c more notQuote _ _ plain ih =>
    obtain ⟨text, spelled, same, spells, isString⟩ := ih read
    have visible : 32 ≤ c.toNat := Nat.le_of_not_lt fun control => plain (Or.inl control)
    have notBackslash : c ≠ '\\' := fun backslash => plain (Or.inr backslash)
    refine ⟨_, _, ?_, .plain visible notQuote notBackslash spells, ?_⟩
    · rw [same]
      rfl
    · rw [isString, List.reverse_cons, List.append_assoc, List.singleton_append]
  | _ => cases read

theorem Spells.stringBody {text spelled : List Char} (spells : Spells text spelled)
    (seen rest : List Char) : Json.stringBody seen (text ++ '"' :: rest) =
      some (String.ofList (seen.reverse ++ spelled), rest) := by
  induction spells generalizing seen with
  | nil => rw [List.nil_append, Json.stringBody, List.append_nil]
  | @plain c text spelled visible notQuote notBackslash spells ih =>
    have ordinary : ¬ (c.toNat < 32 ∨ c = '\\') := fun special =>
      special.elim (Nat.not_lt.mpr visible) notBackslash
    rw [List.cons_append, Json.stringBody, if_neg ordinary, ih, List.reverse_cons,
      List.append_assoc, List.singleton_append]
    · exact notQuote
    · exact fun _ _ _ _ _ backslash => absurd backslash notBackslash
    · exact fun _ _ backslash => absurd backslash notBackslash
  | @short letter c text spelled member spells ih =>
    have found := mem_shortEscapes_iff.mp member
    have notUnit : letter ≠ 'u' := by
      rintro rfl
      exact absurd found nofun
    rw [List.cons_append, List.cons_append, Json.stringBody, found]
    · dsimp only
      rw [ih, List.reverse_cons, List.append_assoc, List.singleton_append]
    · exact fun _ _ _ _ _ isUnit => absurd isUnit notUnit
  | @unit point digits text spelled value spells ih =>
    obtain ⟨a, b, c, d, rfl, found⟩ := value.exists_digits
    have single : point.toNat < 0xD800 ∨ 0xDFFF < point.toNat := by
      rcases point.valid with low | high
      · exact Or.inl low
      · exact Or.inr high.1
    change Json.stringBody seen ('\\' :: 'u' :: a :: b :: c :: d :: (text ++ '"' :: rest)) = _
    rw [Json.stringBody, found]
    dsimp only
    rw [if_pos single, Char.ofNat_toNat, ih, List.reverse_cons, List.append_assoc,
      List.singleton_append]
  | @pair point high low digits lowDigits text spelled value valueLow highFits lowFits isPoint
      spells ih =>
    obtain ⟨a, b, c, d, rfl, found⟩ := value.exists_digits
    obtain ⟨e, f, g, h, rfl, foundLow⟩ := valueLow.exists_digits
    have surrogate : ¬ (0xD800 + high < 0xD800 ∨ 0xDFFF < 0xD800 + high) := by omega
    have first : ¬ 0xDC00 ≤ 0xD800 + high := by omega
    have second : 0xDC00 ≤ 0xDC00 + low ∧ 0xDC00 + low ≤ 0xDFFF := by omega
    change Json.stringBody seen ('\\' :: 'u' :: a :: b :: c :: d ::
      '\\' :: 'u' :: e :: f :: g :: h :: (text ++ '"' :: rest)) = _
    rw [Json.stringBody, found]
    dsimp only
    rw [if_neg surrogate, if_neg first]
    simp only [foundLow]
    rw [if_pos second, Nat.add_sub_cancel_left, Nat.add_sub_cancel_left, ← isPoint,
      Char.ofNat_toNat, ih, List.reverse_cons, List.append_assoc, List.singleton_append]

/-! ## Writing -/

/-- A character is written as a short escape, as a code unit, or as it is. -/
theorem escape_cases (c : Char) :
    (∃ letter, (letter, c) ∈ shortEscapes ∧ escape c = ['\\', letter]) ∨
    (c.toNat < 32 ∧ escape c =
      ['\\', 'u', '0', '0', Hex.digit (c.toNat / 16), Hex.digit (c.toNat % 16)]) ∨
    (32 ≤ c.toNat ∧ c ≠ '"' ∧ c ≠ '\\' ∧ escape c = [c]) := by
  unfold escape
  split
  · rename_i same
    subst same
    exact Or.inl ⟨'"', by decide, rfl⟩
  · rename_i notQuote
    split
    · rename_i same
      subst same
      exact Or.inl ⟨'\\', by decide, rfl⟩
    · rename_i notBackslash
      split
      · rename_i same
        subst same
        exact Or.inl ⟨'n', by decide, rfl⟩
      · split
        · rename_i same
          subst same
          exact Or.inl ⟨'r', by decide, rfl⟩
        · split
          · rename_i same
            subst same
            exact Or.inl ⟨'t', by decide, rfl⟩
          · split
            · rename_i same
              have isBackspace : c = '\x08' := Char.toNat_inj.mp same
              subst isBackspace
              exact Or.inl ⟨'b', by decide, rfl⟩
            · split
              · rename_i same
                have isFormFeed : c = '\x0c' := Char.toNat_inj.mp same
                subst isFormFeed
                exact Or.inl ⟨'f', by decide, rfl⟩
              · split
                · rename_i control
                  exact Or.inr (Or.inl ⟨control, rfl⟩)
                · rename_i visible
                  exact Or.inr (Or.inr ⟨Nat.le_of_not_lt visible, notQuote, notBackslash, rfl⟩)

theorem spells_escape {text spelled : List Char} (c : Char) (spells : Spells text spelled) :
    Spells (escape c ++ text) (c :: spelled) := by
  rcases escape_cases c with ⟨letter, member, same⟩ | ⟨control, same⟩ |
    ⟨visible, notQuote, notBackslash, same⟩
  · rw [same]
    exact .short member spells
  · have value : CodeUnit ['0', '0', Hex.digit (c.toNat / 16), Hex.digit (c.toNat % 16)]
        (0 * 0x1000 + 0 * 0x100 + c.toNat / 16 * 0x10 + c.toNat % 16) :=
      .digits rfl rfl (Hex.value?_digit (by omega)) (Hex.value?_digit (by omega))
    have code : 0 * 0x1000 + 0 * 0x100 + c.toNat / 16 * 0x10 + c.toNat % 16 = c.toNat := by omega
    rw [code] at value
    rw [same]
    exact .unit value spells
  · rw [same]
    exact .plain visible notQuote notBackslash spells

theorem spells_flatMap_escape (cs : List Char) : Spells (cs.flatMap escape) cs := by
  induction cs with
  | nil => exact .nil
  | cons c rest ih =>
    rw [List.flatMap_cons]
    exact spells_escape c ih

/-! ## Lengths -/

/-- How many bytes characters take. -/
def width (cs : List Char) : Nat :=
  (String.ofList cs).utf8ByteSize

@[simp] theorem width_nil : width [] = 0 := rfl

@[simp] theorem width_cons (c : Char) (cs : List Char) :
    width (c :: cs) = c.utf8Size + width cs := by
  rw [width, String.ofList_cons, String.utf8ByteSize_append, String.utf8ByteSize_singleton]
  rfl

@[simp] theorem width_append (cs others : List Char) :
    width (cs ++ others) = width cs + width others := by
  rw [width, String.ofList_append, String.utf8ByteSize_append]
  rfl

theorem length_le_width (cs : List Char) : cs.length ≤ width cs := by
  induction cs with
  | nil => exact Nat.le_refl 0
  | cons c rest ih =>
    have positive := c.utf8Size_pos
    rw [List.length_cons, width_cons]
    omega

theorem width_escape_of_mem {letter c : Char} (member : (letter, c) ∈ shortEscapes) :
    width (escape c) ≤ 2 := by
  have each : ∀ e ∈ shortEscapes, width (escape e.2) ≤ 2 := by decide
  exact each _ member

theorem width_escape_le (c : Char) : width (escape c) ≤ 6 := by
  rcases escape_cases c with ⟨letter, member, -⟩ | ⟨control, same⟩ | ⟨-, -, -, same⟩
  · exact Nat.le_trans (width_escape_of_mem member) (by decide)
  · have each : ∀ n : Fin 16, (Hex.digit n.val).utf8Size = 1 := by decide
    have high := each ⟨c.toNat / 16, by omega⟩
    have low := each ⟨c.toNat % 16, by omega⟩
    dsimp only at high low
    simp only [same, width_cons, width_nil, high, low]
    decide
  · have atMost := c.utf8Size_le_four
    rw [same, width_cons, width_nil]
    omega

theorem escape_of_visible {c : Char} (visible : 32 ≤ c.toNat) (notQuote : c ≠ '"')
    (notBackslash : c ≠ '\\') : escape c = [c] := by
  have control {other : Char} (low : other.toNat < 32) : c ≠ other := fun same =>
    Nat.not_lt.mpr visible (same ▸ low)
  rw [escape, if_neg notQuote, if_neg notBackslash, if_neg (control (by decide)),
    if_neg (control (by decide)), if_neg (control (by decide)), if_neg (by omega),
    if_neg (by omega), if_neg (by omega)]

theorem CodeUnit.four_le_width {digits : List Char} {unit : Nat} (value : CodeUnit digits unit) :
    4 ≤ width digits := by
  obtain ⟨a, b, c, d, rfl, -⟩ := value.exists_digits
  exact length_le_width [a, b, c, d]

/-- No text that spells a string is shorter than the one that is written for it. -/
theorem Spells.width_escape_le {text spelled : List Char} (spells : Spells text spelled) :
    width (spelled.flatMap escape) ≤ width text := by
  induction spells with
  | nil => exact Nat.le_refl _
  | @plain c text spelled visible notQuote notBackslash spells ih =>
    rw [List.flatMap_cons, escape_of_visible visible notQuote notBackslash, List.singleton_append,
      width_cons, width_cons]
    omega
  | @short letter c text spelled member spells ih =>
    have escaped := width_escape_of_mem member
    have positive := letter.utf8Size_pos
    rw [List.flatMap_cons, width_append, width_cons, width_cons, show '\\'.utf8Size = 1 from rfl]
    omega
  | @unit c digits text spelled value spells ih =>
    have escaped := Json.width_escape_le c
    have four := value.four_le_width
    rw [List.flatMap_cons, width_append, width_cons, width_cons, width_append,
      show '\\'.utf8Size = 1 from rfl, show 'u'.utf8Size = 1 from rfl]
    omega
  | @pair c high low digits lowDigits text spelled value valueLow highFits lowFits isPoint spells
      ih =>
    have escaped := Json.width_escape_le c
    have four := value.four_le_width
    rw [List.flatMap_cons, width_append, width_cons, width_cons, width_append, width_cons,
      width_cons, width_append, show '\\'.utf8Size = 1 from rfl, show 'u'.utf8Size = 1 from rfl]
    omega

end Gatehouse.Json
