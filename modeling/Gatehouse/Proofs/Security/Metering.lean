import Mathlib.Algebra.Order.Field.Rat
import Mathlib.Tactic.Linarith
import Mathlib.Tactic.Ring
import Gatehouse.Proofs.Dict
import Gatehouse.Security.Limiter

/-!
How many requests a limiter lets pass, in exact amounts.

A bucket is cut at its capacity, refilled only when its client is checked, and dropped whenever it
is full. None of that shows. What a client has left at a moment is bounded by each of its checks so
far: from that check on, no more has passed than the capacity and what has come in since. It is also
no less than the least of these bounds, and `Metered` says so in one equivalence. `Metered` is kept
by a check, by the time that passes, and by dropping full buckets at any moment.
-/

namespace Gatehouse

namespace Limiter

/-- A check, and what came of it. -/
structure Verdict where
  client : String
  moment : Nat
  passes : Bool
  deriving DecidableEq, Repr

/-- What a check takes from the bucket. -/
def Verdict.cost (v : Verdict) : Rat := if v.passes then 1 else 0

/-- What comes into a bucket in a number of nanoseconds. -/
def income (rate nanos : Rat) : Rat := rate * (nanos / 1000000000)

/-- Whether `amount` is within all bounds that the checks of a client set for a moment. The checks
come last first, and each adds to the amount what has passed since it. -/
def Within (rate capacity : Rat) (client : String) (moment : Nat) :
    (amount : Rat) → List Verdict → Prop
  | _, [] => True
  | amount, v :: earlier =>
    if v.client = client then
      amount + v.cost ≤ capacity + income rate (moment - v.moment) ∧
        Within rate capacity client moment (amount + v.cost) earlier
    else Within rate capacity client moment amount earlier

section Bounds

variable {rate capacity : Rat} {client : String}

/-- Bounds that rise with time. -/
theorem within_later (now later : Nat) (amount : Rat) (past : List Verdict) :
    Within rate capacity client later amount past ↔
      Within rate capacity client now (amount - income rate (later - now)) past := by
  induction past generalizing amount with
  | nil => exact Iff.rfl
  | cons v earlier ih =>
    unfold Within
    split
    · have sums : amount + v.cost - income rate (later - now) =
          amount - income rate (later - now) + v.cost := by ring
      rw [ih, sums]
      refine and_congr_left fun _ => ?_
      unfold income
      constructor
      · intro bound
        linarith
      · intro bound
        linarith
    · exact ih amount

end Bounds

/-! ## Levels -/

/-- The tokens that a client would have at a moment. -/
def level (limiter : Limiter Rat) (client : String) (moment : Nat) : Rat :=
  Quantity.min (limiter.refilled (limiter.bucketOf client moment) moment) limiter.capacity

variable {limiter : Limiter Rat} {client : String}

theorem refilled_eq (bucket : Bucket Rat) (moment : Nat) :
    limiter.refilled bucket moment =
      bucket.tokens + income limiter.rate ((moment - bucket.updated : Nat) : Rat) := by
  change bucket.tokens + ((moment - bucket.updated : Nat) : Rat) / 1000000000 * limiter.rate = _
  unfold income
  ring

theorem le_level_iff {moment : Nat} {amount : Rat} :
    amount ≤ limiter.level client moment ↔
      amount ≤ limiter.refilled (limiter.bucketOf client moment) moment ∧
        amount ≤ limiter.capacity := by
  change amount ≤ (if _ ≤ limiter.capacity then _ else limiter.capacity) ↔ _
  split
  · rename_i below
    exact ⟨fun h => ⟨h, le_trans h below⟩, And.left⟩
  · rename_i above
    exact ⟨fun h => ⟨le_trans h (le_of_lt (not_le.mp above)), h⟩, And.right⟩

/-- A client without a bucket has a full one. -/
theorem le_level_of_unknown (unknown : limiter.buckets.get? client = none) {moment : Nat}
    {amount : Rat} : amount ≤ limiter.level client moment ↔ amount ≤ limiter.capacity := by
  have full : limiter.refilled (limiter.bucketOf client moment) moment = limiter.capacity := by
    rw [bucketOf, unknown, refilled_eq]
    simp only [Option.getD_none, Nat.sub_self, Nat.cast_zero, income, zero_div, mul_zero, add_zero]
  rw [le_level_iff, full, and_self]

/-! ## Operations -/

/-- A check passes if the level is one token or more, and takes the token. -/
theorem check_passes_iff {now : Nat} :
    (limiter.check client now).1 = true ↔ 1 ≤ limiter.level client now := by
  have one : (Quantity.ofNat 1 : Rat) = 1 := Nat.cast_one
  change (limiter.take (limiter.bucketOf client now) now).1 = true ↔ _
  unfold take
  dsimp only
  split
  · rename_i enough
    rw [one] at enough
    exact iff_of_true rfl (of_decide_eq_true enough)
  · rename_i short
    rw [one] at short
    exact iff_of_false Bool.false_ne_true fun enough => short (decide_eq_true enough)

theorem check_eq (limiter : Limiter Rat) (client : String) (now : Nat) :
    (limiter.check client now).2 =
      { limiter with
        buckets := limiter.buckets.insert client
          ⟨limiter.level client now - Verdict.cost ⟨client, now, (limiter.check client now).1⟩,
            now⟩ } := by
  have one : (Quantity.ofNat 1 : Rat) = 1 := Nat.cast_one
  unfold check take Verdict.cost
  dsimp only
  split
  · rw [if_pos rfl, one]
    rfl
  · rw [if_neg Bool.false_ne_true, sub_zero]
    rfl

/-- What a client has left after a check. -/
theorem le_level_check {now moment : Nat} (after : now ≤ moment) {amount : Rat} :
    amount ≤ (limiter.check client now).2.level client moment ↔
      amount + Verdict.cost ⟨client, now, (limiter.check client now).1⟩ -
          income limiter.rate (moment - now) ≤ limiter.level client now ∧
        amount ≤ limiter.capacity := by
  rw [le_level_iff, check_eq, bucketOf, Dict.get?_insert, if_pos rfl, Option.getD_some, refilled_eq,
    Nat.cast_sub after]
  refine and_congr_left fun _ => ?_
  constructor
  · intro bound
    linarith
  · intro bound
    linarith

/-- The check of a client does nothing to others. -/
theorem level_check_of_ne {other : String} (different : other ≠ client) (now moment : Nat) :
    (limiter.check client now).2.level other moment = limiter.level other moment := by
  have sameBucket : (limiter.check client now).2.bucketOf other moment =
      limiter.bucketOf other moment := by
    rw [check_eq, bucketOf, Dict.get?_insert, if_neg different, bucketOf]
  unfold level
  rw [sameBucket, check_eq]
  rfl

theorem refilled_mono (nonneg : 0 ≤ limiter.rate) (bucket : Bucket Rat) {now later : Nat}
    (after : now ≤ later) : limiter.refilled bucket now ≤ limiter.refilled bucket later := by
  have longer : ((now - bucket.updated : Nat) : Rat) ≤ ((later - bucket.updated : Nat) : Rat) :=
    Nat.cast_le.mpr (Nat.sub_le_sub_right after _)
  rw [refilled_eq, refilled_eq]
  unfold income
  have more := mul_le_mul_of_nonneg_left longer nonneg
  linarith

/-- A bucket that was full at a moment is full at every later one, so that it makes no difference
whether it was dropped. -/
theorem le_level_evict (nonneg : 0 ≤ limiter.rate) {now moment : Nat} (after : now ≤ moment)
    {amount : Rat} :
    amount ≤ (limiter.evict now).level client moment ↔ amount ≤ limiter.level client moment := by
  cases held : limiter.buckets.get? client with
  | none =>
    have unknown : (limiter.evict now).buckets.get? client = none := by
      cases left : (limiter.evict now).buckets.get? client with
      | none => rfl
      | some bucket =>
        rw [(Dict.get?_filter_eq_some_iff.mp left).1] at held
        cases held
    rw [le_level_of_unknown held, le_level_of_unknown unknown]
    exact Iff.rfl
  | some bucket =>
    cases full : limiter.isFull bucket now with
    | false =>
      have left : (limiter.evict now).buckets.get? client = some bucket := by
        refine Dict.get?_filter_eq_some_iff.mpr ⟨held, ?_⟩
        rw [full]
        rfl
      rw [le_level_iff, le_level_iff, bucketOf, bucketOf, held, left]
      exact Iff.rfl
    | true =>
      have unknown : (limiter.evict now).buckets.get? client = none := by
        cases left : (limiter.evict now).buckets.get? client with
        | none => rfl
        | some other =>
          obtain ⟨same, notFull⟩ := Dict.get?_filter_eq_some_iff.mp left
          rw [held] at same
          cases same
          rw [full] at notFull
          cases notFull
      have filled : limiter.capacity ≤ limiter.refilled bucket moment :=
        le_trans (of_decide_eq_true full) (refilled_mono nonneg bucket after)
      rw [le_level_of_unknown unknown, le_level_iff, bucketOf, held, Option.getD_some]
      exact ⟨fun within => ⟨le_trans within filled, within⟩, And.right⟩

/-! ## What is kept -/

/-- What clients have left from `now` on is what their checks so far leave them. -/
structure Metered (rate capacity : Rat) (limiter : Limiter Rat) (past : List Verdict) (now : Nat) :
    Prop where
  sameRate : limiter.rate = rate
  sameCapacity : limiter.capacity = capacity
  bounds : ∀ {client : String} {moment : Nat} {amount : Rat}, now ≤ moment →
    (amount ≤ limiter.level client moment ↔
      amount ≤ capacity ∧ Within rate capacity client moment amount past)

namespace Metered

variable {rate capacity : Rat} {past : List Verdict} {now : Nat}

theorem ofRates (perSecond burst : Nat) :
    Metered perSecond (max burst 1 : Nat) (Limiter.ofRates perSecond burst) [] now where
  sameRate := rfl
  sameCapacity := rfl
  bounds := by
    intro client moment amount _
    rw [le_level_of_unknown rfl]
    exact (and_iff_left trivial).symm

theorem later (metered : Metered rate capacity limiter past now) {moment : Nat}
    (after : now ≤ moment) : Metered rate capacity limiter past moment where
  sameRate := metered.sameRate
  sameCapacity := metered.sameCapacity
  bounds evenLater := metered.bounds (le_trans after evenLater)

theorem evict (metered : Metered rate capacity limiter past now) (nonneg : 0 ≤ rate) {moment : Nat}
    (before : moment ≤ now) : Metered rate capacity (limiter.evict moment) past now where
  sameRate := metered.sameRate
  sameCapacity := metered.sameCapacity
  bounds := by
    intro client later amount after
    have positive : 0 ≤ limiter.rate := by rw [metered.sameRate]; exact nonneg
    rw [le_level_evict positive (le_trans before after)]
    exact metered.bounds after

/-- A check passes exactly if one more is within all bounds. -/
theorem passes_iff (metered : Metered rate capacity limiter past now) (client : String) :
    (limiter.check client now).1 = true ↔
      1 ≤ capacity ∧ Within rate capacity client now 1 past := by
  rw [check_passes_iff]
  exact metered.bounds (le_refl now)

theorem check (metered : Metered rate capacity limiter past now) (client : String) :
    Metered rate capacity (limiter.check client now).2
      (⟨client, now, (limiter.check client now).1⟩ :: past) now where
  sameRate := by
    rw [check_eq]
    exact metered.sameRate
  sameCapacity := by
    rw [check_eq]
    exact metered.sameCapacity
  bounds := by
    intro other moment amount after
    unfold Within
    by_cases same : client = other
    · subst same
      have sums : amount + Verdict.cost ⟨client, now, (limiter.check client now).1⟩ -
          income rate (moment - now) ≤ capacity ↔
          amount + Verdict.cost ⟨client, now, (limiter.check client now).1⟩ ≤
            capacity + income rate (moment - now) := sub_le_iff_le_add
      rw [le_level_check after, metered.sameRate, metered.sameCapacity,
        metered.bounds (le_refl now), sums, ← within_later, if_pos rfl, and_comm]
    · rw [level_check_of_ne (Ne.symm same), metered.bounds after, if_neg same]

end Metered

end Limiter

end Gatehouse
