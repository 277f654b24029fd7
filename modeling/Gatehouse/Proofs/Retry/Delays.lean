import Gatehouse.Proofs.Retry.Attempts
import Mathlib.Algebra.BigOperators.Ring.Finset
import Mathlib.Algebra.Order.BigOperators.Group.Finset
import Mathlib.Algebra.Order.Field.Rat
import Mathlib.Data.Rat.Floor

/-!
How long the pauses between attempts are, in exact amounts.

`Backoff.steady` is the delay by the rule: the first delay times a power of the growth, cut at the
maximum, in whole milliseconds. The delay that is computed is the same up to the last attempt whose
exponent fits its word, and the random part stays below a tenth of it. A call sleeps between its
attempts only, so that all its pauses together are bounded by their number.
-/

namespace Gatehouse

namespace Backoff

/-- What a delay grows by with every attempt: the multiplier, but no less than one. -/
def growth (backoff : Backoff Rat) : Rat :=
  if backoff.multiplier < 1 then 1 else backoff.multiplier

/-- The delay after a number of attempts in whole milliseconds, by the rule. -/
def steady (backoff : Backoff Rat) (attempt : Nat) : Nat :=
  ⌊min ((Duration.millis backoff.initial : Rat) * backoff.growth ^ (attempt - 1))
    (Duration.millis backoff.max)⌋₊

/-- The longest time that a delay may be asked for: the milliseconds of a signed word. -/
def limit : Nat := Duration.ofMillis 0x7FFFFFFFFFFFFFFF

variable {backoff : Backoff Rat} {attempt later jitter : Nat}

/-! ## The rule -/

theorem one_le_growth (backoff : Backoff Rat) : 1 ≤ backoff.growth := by
  unfold growth
  split
  · exact le_rfl
  · rename_i notBelow
    exact not_lt.mp notBelow

theorem steady_le_steady (order : attempt ≤ later) :
    backoff.steady attempt ≤ backoff.steady later := by
  apply Nat.floor_mono
  apply min_le_min_right
  apply mul_le_mul_of_nonneg_left _ (Nat.cast_nonneg _)
  exact pow_le_pow_right₀ backoff.one_le_growth (Nat.sub_le_sub_right order 1)

theorem steady_le_max (backoff : Backoff Rat) (attempt : Nat) :
    backoff.steady attempt ≤ Duration.millis backoff.max := by
  rw [← Nat.floor_natCast (R := Rat) (Duration.millis backoff.max)]
  exact Nat.floor_mono (min_le_right _ _)

theorem min_le_steady (backoff : Backoff Rat) (attempt : Nat) :
    min (Duration.millis backoff.initial) (Duration.millis backoff.max) ≤
      backoff.steady attempt := by
  apply Nat.le_floor
  rw [Nat.cast_min]
  apply min_le_min_right
  exact le_mul_of_one_le_right (Nat.cast_nonneg _) (one_le_pow₀ backoff.one_le_growth)

/-! ## What is computed -/

theorem wrapInt32_of_lt {i : Int} (nonneg : 0 ≤ i) (small : i < 0x80000000) :
    Numeral.wrapInt32 i = i := by
  rw [Numeral.wrapInt32, Int.bmod_def]
  omega

theorem factor_eq (first : 1 ≤ attempt) (last : attempt ≤ 0x80000000) :
    backoff.factor attempt = backoff.growth ^ (attempt - 1) := by
  have exponent : Numeral.wrapInt32 ((attempt : Int) - 1) = ((attempt - 1 : Nat) : Int) := by
    rw [wrapInt32_of_lt (by omega) (by omega)]
    omega
  have base : Quantity.max backoff.multiplier (Quantity.ofNat 1) = backoff.growth := by
    change (if ((1 : Nat) : Rat) ≤ backoff.multiplier then backoff.multiplier
      else ((1 : Nat) : Rat)) = _
    rw [Nat.cast_one, growth]
    by_cases below : backoff.multiplier < 1
    · rw [if_pos below, if_neg (not_le.mpr below)]
    · rw [if_neg below, if_pos (not_lt.mp below)]
  rw [factor, base, exponent]
  exact zpow_natCast _ _

theorem millis_le_of_le_limit (bounded : backoff.max ≤ limit) :
    Duration.millis backoff.max ≤ 0x7FFFFFFFFFFFFFFF := by
  simp only [limit, Duration.ofMillis] at bounded
  simp only [Duration.millis]
  omega

/-- The delay that is computed is the one by the rule, and fits a word. -/
theorem delay_eq_steady (bounded : backoff.max ≤ limit) (first : 1 ≤ attempt)
    (last : attempt ≤ 0x80000000) : backoff.delay attempt = backoff.steady attempt := by
  have capped (a b : Rat) : Quantity.min a b = min a b := (min_def a b).symm
  have whole (a : Rat) : Quantity.floorWord a = min ⌊a⌋₊ 0xFFFFFFFFFFFFFFFF := by
    rw [← Int.floor_toNat]
    rfl
  have fits : backoff.steady attempt ≤ 0xFFFFFFFFFFFFFFFF :=
    (backoff.steady_le_max attempt).trans ((millis_le_of_le_limit bounded).trans (by decide))
  rw [delay, if_neg (by omega), factor_eq first last, capped, whole]
  exact min_eq_left fits

/-- A random part is below a tenth of the delay, and there is none for a short delay. -/
theorem IsJitter.lt {delay : Nat} (isJitter : IsJitter delay jitter) :
    (delay < 20 → jitter = 0) ∧ (20 ≤ delay → jitter < delay / 10) := by
  simp only [IsJitter, jitterRange] at isJitter
  omega

theorem wait_bounds (bounded : backoff.max ≤ limit) (first : 1 ≤ attempt)
    (last : attempt ≤ 0x80000000) (isJitter : IsJitter (backoff.delay attempt) jitter) :
    Duration.ofMillis (backoff.steady attempt) ≤ backoff.wait attempt jitter ∧
      (backoff.steady attempt < 20 →
        backoff.wait attempt jitter = Duration.ofMillis (backoff.steady attempt)) ∧
      (20 ≤ backoff.steady attempt → backoff.wait attempt jitter <
        Duration.ofMillis (backoff.steady attempt + backoff.steady attempt / 10)) ∧
      backoff.delay attempt + jitter < 0x10000000000000000 := by
  have atMost := (backoff.steady_le_max attempt).trans (millis_le_of_le_limit bounded)
  rw [delay_eq_steady bounded first last] at isJitter ⊢
  obtain ⟨short, long⟩ := isJitter.lt
  rw [wait, delay_eq_steady bounded first last]
  simp only [Duration.ofMillis]
  omega

/-- A pause is at most a tenth longer than the maximum. -/
theorem ten_mul_wait_le (bounded : backoff.max ≤ limit) (first : 1 ≤ attempt)
    (last : attempt ≤ 0x80000000) (isJitter : IsJitter (backoff.delay attempt) jitter) :
    10 * backoff.wait attempt jitter ≤ 11 * backoff.max := by
  have atMost : Duration.ofMillis (backoff.steady attempt) ≤ backoff.max := by
    refine le_trans ?_ (Nat.div_mul_le_self backoff.max 1000000)
    exact Nat.mul_le_mul_right _ (backoff.steady_le_max attempt)
  obtain ⟨-, short, long, -⟩ := wait_bounds bounded first last isJitter
  simp only [Duration.ofMillis] at atMost short long
  rcases Nat.lt_or_ge (backoff.steady attempt) 20 with few | many
  · rw [short few]
    omega
  · have below := long many
    omega

/-! ## All pauses of a call -/

section Run

variable {β : Type}

open Attempt

/-- The time of a call is that of its attempts and that of the pauses between them. -/
theorem endOf_eq_sum (script : Nat → Attempt β) (pause : Nat → Nat) (now n : Nat) :
    endOf script pause now (n + 1) =
      now + ∑ k ∈ Finset.range (n + 1), (script (k + 1)).latency +
        ∑ k ∈ Finset.range n, pause (k + 1) := by
  induction n with
  | zero =>
    simp [endOf, startOf]
  | succ n ih =>
    rw [endOf, startOf_succ (by omega), ih, Finset.sum_range_succ _ (n + 1),
      Finset.sum_range_succ (fun k => pause (k + 1)) n]
    omega

theorem sum_pauses_le {n : Nat} {pause : Nat → Nat} {most : Nat}
    (each : ∀ k, 1 ≤ k → k ≤ n → 10 * pause k ≤ most) :
    10 * ∑ k ∈ Finset.range n, pause (k + 1) ≤ most * n := by
  rw [Finset.mul_sum, mul_comm most n]
  calc
    ∑ k ∈ Finset.range n, 10 * pause (k + 1) ≤ (Finset.range n).card • most :=
      Finset.sum_le_card_nsmul _ _ _ fun k member =>
        each (k + 1) (by omega) (Finset.mem_range.mp member)
    _ = n * most := by simp

/-- What a call takes beyond the time of its attempts are the pauses between them. -/
theorem run_pauses (attempts : Nat) (backoff : Backoff Rat) (jitter : Nat → Nat)
    (script : Nat → Attempt β) (now : Nat) :
    ∃ n started,
      (RetryPolicy.ofLimits attempts backoff).retry jitter (play script) none now [] =
        (some (now + ∑ k ∈ Finset.range (n + 1), (script (k + 1)).latency +
          ∑ k ∈ Finset.range n, backoff.wait (k + 1) (jitter (k + 1)),
            (script (n + 1)).result), started) ∧
      started.length = n + 1 := by
  let policy := RetryPolicy.ofLimits attempts backoff
  let pause (attempt : Nat) := backoff.wait attempt (jitter attempt)
  obtain ⟨n, decides⟩ := Decides.exists_of_budget script 1 (policy.maxAttempts - 1)
  rw [Nat.add_sub_cancel' policy.maxAttempts_pos] at decides
  have isPause (attempt : Nat) : pause attempt = policy.backoff.wait attempt (jitter attempt) := rfl
  have unlimited : Timed.isWithin none now = true := rfl
  have course := RetryPolicy.run_retry decides isPause unlimited
  rw [filter_starts_of_ended (Nat.le_refl 1) rfl] at course
  obtain ⟨n, rfl⟩ := Nat.exists_eq_add_of_le' decides.ge_first
  rw [endOf_eq_sum script pause now n] at course
  refine ⟨n, _, course, ?_⟩
  rw [List.length_reverse, starts, List.length_map, List.length_range', Nat.add_sub_cancel]

end Run

/-! ## Bounds -/

/-- The pauses between the attempts of a call, with a maximum whose milliseconds fit a signed word.

Up to attempt number `2 ^ 31` a pause is at least the delay by the rule, and is that delay if it is
below 20 milliseconds; otherwise it is less than a tenth longer. With its random part it fits a
word. The delays do not fall, and are between the first one, or the maximum if that is less, and the
maximum. So what a call of that many attempts sleeps is at most the maximum and a tenth of it for
each attempt but one. -/
theorem pauses_bounded {backoff : Backoff Rat} (bounded : backoff.max ≤ limit) :
    (∀ attempt jitter, 1 ≤ attempt → attempt ≤ 0x80000000 →
        IsJitter (backoff.delay attempt) jitter →
        Duration.ofMillis (backoff.steady attempt) ≤ backoff.wait attempt jitter ∧
        (backoff.steady attempt < 20 →
          backoff.wait attempt jitter = Duration.ofMillis (backoff.steady attempt)) ∧
        (20 ≤ backoff.steady attempt → backoff.wait attempt jitter <
          Duration.ofMillis (backoff.steady attempt + backoff.steady attempt / 10)) ∧
        backoff.delay attempt + jitter < 0x10000000000000000) ∧
      (∀ attempt later, attempt ≤ later → backoff.steady attempt ≤ backoff.steady later) ∧
      (∀ attempt,
        min (Duration.millis backoff.initial) (Duration.millis backoff.max) ≤
          backoff.steady attempt ∧
        backoff.steady attempt ≤ Duration.millis backoff.max) ∧
      ∀ {β : Type} (attempts : Nat) (jitter : Nat → Nat) (script : Nat → Attempt β) (now : Nat),
        ∃ ended result started slept,
          (RetryPolicy.ofLimits attempts backoff).retry jitter (Attempt.play script) none now [] =
            (some (ended, result), started) ∧
          ended = now + ∑ k ∈ Finset.range started.length, (script (k + 1)).latency + slept ∧
          (started.length ≤ 0x80000000 →
            (∀ k, 1 ≤ k → k < started.length → IsJitter (backoff.delay k) (jitter k)) →
            10 * slept ≤ 11 * backoff.max * (started.length - 1)) := by
  refine ⟨fun attempt jitter => wait_bounds bounded, fun attempt later => steady_le_steady,
    fun attempt => ⟨backoff.min_le_steady attempt, backoff.steady_le_max attempt⟩, ?_⟩
  intro β attempts jitter script now
  obtain ⟨n, started, course, count⟩ := run_pauses attempts backoff jitter script now
  refine ⟨_, _, started, _, course, by rw [count], fun few draws => ?_⟩
  rw [count] at few draws
  rw [count, Nat.add_sub_cancel]
  have each (k : Nat) (first : 1 ≤ k) (last : k ≤ n) :
      10 * backoff.wait k (jitter k) ≤ 11 * backoff.max :=
    ten_mul_wait_le bounded first (by omega) (draws k first (by omega))
  -- The pause is read off `each`: under the sum it stands at `k + 1` only.
  have total := sum_pauses_le each
  exact total

/-- The longest delays, at the last attempt that counts, with the largest random part. -/
theorem pauses_bounded_longest :
    let backoff : Backoff Rat := ⟨limit, limit, 2⟩
    let jitter := 922337203685477579
    backoff.max ≤ limit ∧ IsJitter (backoff.delay 0x80000000) jitter ∧
      backoff.delay 0x80000000 = 0x7FFFFFFFFFFFFFFF ∧
      backoff.delay 0x80000000 + jitter < 0x10000000000000000 := by
  intro backoff jitter
  have bounded : backoff.max ≤ limit := le_rfl
  obtain ⟨each, -, between, -⟩ := pauses_bounded bounded
  have longest : backoff.delay 0x80000000 = 0x7FFFFFFFFFFFFFFF := by
    have whole : Duration.millis limit = 0x7FFFFFFFFFFFFFFF := by decide
    obtain ⟨atLeast, atMost⟩ := between 0x80000000
    rw [delay_eq_steady bounded (by decide) (by decide)]
    change min (Duration.millis limit) (Duration.millis limit) ≤ _ at atLeast
    rw [whole, min_self] at atLeast
    exact le_antisymm (atMost.trans whole.le) atLeast
  have isJitter : IsJitter (backoff.delay 0x80000000) jitter := by
    rw [longest]
    decide
  obtain ⟨-, -, -, fits⟩ := each 0x80000000 jitter (by decide) (by decide) isJitter
  exact ⟨bounded, isJitter, longest, fits⟩

end Backoff

end Gatehouse
