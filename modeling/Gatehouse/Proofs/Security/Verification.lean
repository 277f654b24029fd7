import Gatehouse.Proofs.Security.Binding
import Gatehouse.Proofs.Text.Spelling

/-!
Which texts are accepted as a signature.

`verify_exactly` says it in full, without a word about how a text is taken apart: which spellings of
the time and of the signature there are, and how far the time may be away. The distance is that of
integers. It is taken in words of 64 bits, where it stays at the ends of their range; but the ends
are further away than any maximal age, so that this never shows.
-/

namespace Gatehouse

namespace Signature

/-! ## Taking a text apart -/

theorem splitLastColon_of_plain {cs : List Char} (plain : ':' ∉ cs) : splitLastColon cs = none := by
  have notColon : ∀ c ∈ cs.reverse, (c != ':') = true := by
    intro c member
    apply bne_iff_ne.mpr
    rintro rfl
    exact plain (List.mem_reverse.mp member)
  have dropped : cs.reverse.dropWhile (· != ':') = [] := by
    rw [← List.append_nil cs.reverse, List.dropWhile_append_of_pos notColon]
    rfl
  rw [splitLastColon, dropped]

theorem splitLastColon_eq_some_iff {cs before after : List Char} :
    splitLastColon cs = some (before, after) ↔ cs = before ++ ':' :: after ∧ ':' ∉ after := by
  constructor
  · intro parts
    by_cases colon : ':' ∈ cs
    · obtain ⟨behind, front, reversed, plain⟩ :=
        List.eq_append_cons_of_mem (List.mem_reverse.mpr colon)
      have whole : cs = front.reverse ++ ':' :: behind.reverse := by
        rw [← List.reverse_reverse cs, reversed, List.reverse_append, List.reverse_cons,
          List.append_assoc, List.singleton_append]
      rw [← List.mem_reverse] at plain
      rw [whole, splitLastColon_append plain] at parts
      cases parts
      exact ⟨whole, plain⟩
    · rw [splitLastColon_of_plain colon] at parts
      cases parts
  · rintro ⟨rfl, plain⟩
    exact splitLastColon_append plain

/-- A presented text in full: the digits of the signature, a colon, and the numeral of the time. -/
theorem spells_iff {presented : String} {signature : Bytes} {time : Int} :
    Spells presented signature time ↔
      ∃ digits numeral, presented.toList = digits ++ ':' :: numeral ∧ ':' ∉ numeral ∧
        Numeral.DenotesInt numeral time ∧
        (-0x8000000000000000 ≤ time ∧ time < 0x8000000000000000) ∧
        Hex.Spells digits signature := by
  unfold Spells
  simp only [splitLastColon_eq_some_iff, Hex.decode_eq_some_iff, Numeral.int64?_eq_some_iff]
  constructor
  · rintro ⟨digits, numeral, ⟨parts, plain⟩, decoded, denotes, range⟩
    exact ⟨digits, numeral, parts, plain, denotes, range, decoded⟩
  · rintro ⟨digits, numeral, parts, plain, denotes, range, decoded⟩
    exact ⟨digits, numeral, ⟨parts, plain⟩, decoded, denotes, range⟩

/-! ## What is compared -/

/-- The distance of two times is taken right, whatever they are. -/
theorem isCurrent_iff {maxAge : Nat} (bounded : maxAge < 0x7FFFFFFFFFFFFFFF) {now time : Int} :
    isCurrent maxAge now time = true ↔ (now - time).natAbs ≤ maxAge := by
  constructor
  · intro current
    rw [isCurrent_iff_clamped (Nat.le_of_lt bounded)] at current
    unfold Numeral.clampInt64 at current
    split at current
    · omega
    · split at current <;> omega
  · exact isCurrent_of_near (Nat.le_of_lt bounded)

theorem mac_eq_toString (secret module : String) (time : Int) :
    mac secret module time = Hmac.mac (utf8 secret) (utf8 (module ++ ":" ++ toString time)) := by
  have text : String.ofList (subject module time) = module ++ ":" ++ toString time := by
    rw [← Numeral.intText_eq, subject, String.ofList_append, ← List.singleton_append,
      String.ofList_append, String.ofList_toList, ← String.append_assoc]
    rfl
  rw [mac, text]

/-- A text is accepted exactly if there is a secret and the text is a signature with a time: two
hexadecimal digits of either case for each byte of the keyed hash of the module and the time, which
makes 64, and behind the last colon a numeral of a time in the range of 64 bits, with a sign or
without. The hash is always over the canonical numeral of the time. The time is accepted up to the
maximal age before or after the present one, and never beyond it, even if the two are as far apart
as their range allows. -/
theorem verify_exactly {secret module presented : String} {maxAge : Nat} {now : Int}
    (bounded : maxAge < 0x7FFFFFFFFFFFFFFF) :
    verify secret module presented maxAge now = true ↔
      secret ≠ "" ∧ ∃ (digits numeral : List Char) (time : Int),
        presented.toList = digits ++ ':' :: numeral ∧ ':' ∉ numeral ∧
        Numeral.DenotesInt numeral time ∧
        (-0x8000000000000000 ≤ time ∧ time < 0x8000000000000000) ∧
        (now - time).natAbs ≤ maxAge ∧ digits.length = 64 ∧
        Hex.Spells digits
          (Hmac.mac (utf8 secret) (utf8 (module ++ ":" ++ toString time))) := by
  rw [verify_iff]
  simp only [isCurrent_iff bounded, spells_iff, mac_eq_toString]
  constructor
  · rintro ⟨hasSecret, time, near, digits, numeral, parts, plain, denotes, range, spelled⟩
    have count : digits.length = 64 := by rw [spelled.length_eq, Hmac.length_mac]
    exact ⟨hasSecret, digits, numeral, time, parts, plain, denotes, range, near, count, spelled⟩
  · rintro ⟨hasSecret, digits, numeral, time, parts, plain, denotes, range, near, -, spelled⟩
    exact ⟨hasSecret, time, near, digits, numeral, parts, plain, denotes, range, spelled⟩

/-- The signature for the least time there is, in capitals and with a zero in front of the numeral.
It is accepted at the last second of the longest maximal age, and not at the end of the range. -/
theorem verify_exactly_least :
    let signature := mac "s3cret" "a:1" (-0x8000000000000000)
    let digits := (Hex.encode signature).map Char.toUpper
    let numeral := "-09223372036854775808".toList
    let text := String.ofList (digits ++ ':' :: numeral)
    0x7FFFFFFFFFFFFFFE < 0x7FFFFFFFFFFFFFFF ∧
      verify "s3cret" "a:1" text 0x7FFFFFFFFFFFFFFE (-2) = true ∧
      ¬ verify "s3cret" "a:1" text 0x7FFFFFFFFFFFFFFE 0x7FFFFFFFFFFFFFFF = true := by
  intro signature digits numeral text
  have bounded : 0x7FFFFFFFFFFFFFFE < 0x7FFFFFFFFFFFFFFF := by decide
  have read : Numeral.int? numeral = some (-0x8000000000000000) := by decide +kernel
  have plain : ':' ∉ numeral := by decide +kernel
  have parts : text.toList = digits ++ ':' :: numeral := String.toList_ofList
  have isHash : signature = _ := mac_eq_toString "s3cret" "a:1" (-0x8000000000000000)
  have spells : Hex.Spells digits signature := Hex.spells_capitals signature
  rw [isHash] at spells
  have count : digits.length = 64 := by rw [spells.length_eq, Hmac.length_mac]
  refine ⟨bounded, (verify_exactly bounded).mpr ⟨by decide, digits, numeral, _, parts, plain,
    Numeral.int?_eq_some_iff.mp read, by decide, by decide, count, spells⟩, ?_⟩
  intro accepted
  obtain ⟨-, others, other, time, otherParts, otherPlain, denotes, -, near, -, -⟩ :=
    (verify_exactly bounded).mp accepted
  have same := splitLastColon_eq_some_iff.mpr ⟨otherParts, otherPlain⟩
  rw [splitLastColon_eq_some_iff.mpr ⟨parts, plain⟩] at same
  cases same
  rw [Numeral.int?_eq_some_iff.mpr denotes] at read
  cases read
  exact absurd near (by decide)

end Signature

end Gatehouse
