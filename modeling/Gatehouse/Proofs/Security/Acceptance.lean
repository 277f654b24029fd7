import Gatehouse.Proofs.Text.RoundTrip
import Gatehouse.Security.Gate

/-!
A gate accepts its own signs.

What a gate stamps on a message it lets pass again, for the same module and at any time that is not
further away than its maximal age. In the mode of signatures this rests on reading back what was
written: the signature ends at the last colon, since a numeral has none, whatever colons there are
in the name of the module.
-/

namespace Gatehouse

namespace Signature

theorem splitLastColon_append {before after : List Char} (plain : ':' ∉ after) :
    splitLastColon (before ++ ':' :: after) = some (before, after) := by
  have notColon : ∀ c ∈ after.reverse, (c != ':') = true := by
    intro c member
    refine bne_iff_ne.mpr fun same => plain ?_
    rw [← same]
    exact List.mem_reverse.mp member
  have reversed : (before ++ ':' :: after).reverse = after.reverse ++ ':' :: before.reverse := by
    simp only [List.reverse_append, List.reverse_cons, List.append_assoc, List.singleton_append]
  have taken : (after.reverse ++ ':' :: before.reverse).takeWhile (· != ':') = after.reverse := by
    rw [List.takeWhile_append_of_pos notColon]
    simp only [List.takeWhile_cons, bne_self_eq_false, Bool.false_eq_true, if_false,
      List.append_nil]
  have dropped : (after.reverse ++ ':' :: before.reverse).dropWhile (· != ':') =
      ':' :: before.reverse := by
    rw [List.dropWhile_append_of_pos notColon]
    simp only [List.dropWhile_cons, bne_self_eq_false, Bool.false_eq_true, if_false]
  simp only [splitLastColon, reversed, taken, dropped, List.reverse_reverse]

/-- A maximal age that a word of 64 bits holds is read as it is. -/
theorem isCurrent_iff_clamped {maxAge : Nat} {now time : Int}
    (bounded : maxAge ≤ 0x7FFFFFFFFFFFFFFF) :
    isCurrent maxAge now time = true ↔
      Numeral.clampInt64 (now - time) ≤ maxAge ∧ -(maxAge : Int) ≤ Numeral.clampInt64 (now - time)
    := by
  have limit : Numeral.wrapInt64 maxAge = maxAge := by
    unfold Numeral.wrapInt64
    exact Int.bmod_eq_of_le (by omega) (by omega)
  have negated : Numeral.wrapInt64 (-(maxAge : Int)) = -(maxAge : Int) := by
    unfold Numeral.wrapInt64
    exact Int.bmod_eq_of_le (by omega) (by omega)
  simp only [isCurrent, limit, negated, Bool.and_eq_true, Bool.not_eq_true',
    decide_eq_false_iff_not, Int.not_lt]

/-- A distance up to the maximal age is not lost in words of 64 bits. -/
theorem isCurrent_of_near {maxAge : Nat} {now time : Int} (bounded : maxAge ≤ 0x7FFFFFFFFFFFFFFF)
    (near : (now - time).natAbs ≤ maxAge) : isCurrent maxAge now time = true := by
  have age : Numeral.clampInt64 (now - time) = now - time := by
    unfold Numeral.clampInt64
    rw [if_neg (by omega), if_neg (by omega)]
  rw [isCurrent_iff_clamped bounded, age]
  omega

theorem toList_present (secret module : String) (time : Int) :
    (present secret module time).toList =
      Hex.encode (mac secret module time) ++ ':' :: Numeral.intDigits time := by
  simp only [present, sign, Hex.text, Numeral.intText, String.toList_append, String.toList_ofList]
  rw [List.append_assoc]
  rfl

theorem verify_present {secret : String} {maxAge : Nat} {now time : Int} (module : String)
    (hasSecret : secret.isEmpty = false) (bounded : maxAge ≤ 0x7FFFFFFFFFFFFFFF)
    (fits : Numeral.fitsInt64 time = true) (near : (now - time).natAbs ≤ maxAge) :
    verify secret module (present secret module time) maxAge now = true := by
  simp only [verify, hasSecret, toList_present,
    splitLastColon_append (Numeral.colon_notMem_intDigits time), Numeral.int64?_intDigits fits,
    isCurrent_of_near bounded near, Hex.decode_encode, Bool.false_eq_true, if_false, BEq.rfl,
    Bool.and_self]

end Signature

namespace Gate

/-- What a gate accepts of its own signs, by its mode: a shared text always, and a signature at any
time that is near enough to the time it is for. A gate of certificates has no signs. -/
theorem authorize_signFor (gate : Gate) (module : String) {stamped : Int}
    (fits : Numeral.fitsInt64 stamped = true) :
    (∀ sign, gate = .staticSign sign → sign ≠ "" →
      ∀ now, gate.authorize module (gate.signFor module stamped) none now = .ok ()) ∧
    (∀ secret maxAge, gate = .hmac secret maxAge → secret ≠ "" → maxAge < 0x7FFFFFFFFFFFFFFF →
      ∀ now : Int, (now - stamped).natAbs ≤ maxAge →
        gate.authorize module (gate.signFor module stamped) none now = .ok ()) ∧
    (gate = .mutualTls → gate.signFor module stamped = none) := by
  refine ⟨?_, ?_, ?_⟩
  · rintro sign rfl hasSign now
    have nonempty : sign.isEmpty = false := by
      rw [Bool.eq_false_iff, ne_eq, String.isEmpty_iff]
      exact hasSign
    simp only [signFor, authorize, nonempty, Bool.not_false, BEq.rfl, Bool.and_self, if_true]
  · rintro secret maxAge rfl hasSecret bounded now near
    have nonempty : secret.isEmpty = false := by
      rw [Bool.eq_false_iff, ne_eq, String.isEmpty_iff]
      exact hasSecret
    have verified := Signature.verify_present module nonempty (Nat.le_of_lt bounded) fits near
    simp only [signFor, authorize, verified, if_true]
  · rintro rfl
    rfl

end Gate

end Gatehouse
