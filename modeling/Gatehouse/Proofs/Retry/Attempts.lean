import Gatehouse.Retry.Policy
import Gatehouse.Time.Deadline

/-!
The attempts of a call, on the clock.

A script says how long each attempt takes and how it ends, and with it is settled which attempt
decides, when each one starts, and when the call is over. `run_retryFrom` is the course of the loop
up to any limit: it starts those attempts up to the deciding one whose time comes within the limit,
and ends if the deciding one does. A deadline is such a limit, so that a call under a deadline
either comes to what it would come to without, or is a timeout at the deadline.
-/

namespace Gatehouse

namespace Timed

theorem isWithin_mono {limit : Option Nat} {earlier later : Nat} (order : earlier ≤ later)
    (within : isWithin limit later = true) : isWithin limit earlier = true := by
  cases limit with
  | none => rfl
  | some last => exact decide_eq_true (Nat.le_trans order (of_decide_eq_true within))

/-- What comes after something late is late as well. -/
theorem late_of_le {limit : Option Nat} {earlier later : Nat} (order : earlier ≤ later)
    (late : isWithin limit earlier = false) : isWithin limit later = false := by
  rw [← Bool.not_eq_true] at late ⊢
  exact fun within => late (isWithin_mono order within)

theorem wait_bind {σ α : Type} (length : Nat) (next : Unit → Timed σ α) (limit : Option Nat)
    (now : Nat) (state : σ) :
    (wait length).bind next limit now state =
      if isWithin limit (now + length) then next () limit (now + length) state
      else (none, state) := by
  unfold Timed.bind wait await
  cases within : isWithin limit (now + length) <;> simp only [within] <;> rfl

end Timed

namespace Attempt

variable {β : Type}

/-- No other attempt follows this one, whatever is left of the budget. -/
def isFinal (attempt : Attempt β) : Bool :=
  match attempt.result with
  | .ok _ => true
  | .error status => ! status.code.isRetryable

/-- The attempt that decides a call whose attempts are those from `first` to `last`: the first one
that is final, or else the last one. -/
structure Decides (script : Nat → Attempt β) (first last n : Nat) : Prop where
  ge_first : first ≤ n
  le_last : n ≤ last
  decisive : (script n).isFinal = true ∨ n = last
  undecided : ∀ k, first ≤ k → k < n → (script k).isFinal = false

namespace Decides

variable {script : Nat → Attempt β} {first last n : Nat}

theorem eq_first (decides : Decides script first last n) (final : (script first).isFinal = true) :
    n = first := by
  refine Nat.le_antisymm (Nat.le_of_not_lt fun later => ?_) decides.ge_first
  have undecided := decides.undecided first (Nat.le_refl _) later
  rw [final] at undecided
  cases undecided

/-- An attempt that is neither final nor the last one leaves the decision to those after it. -/
theorem next (decides : Decides script first last n) (open_ : (script first).isFinal = false)
    (more : first < last) : Decides script (first + 1) last n := by
  have later : first < n := by
    refine Nat.lt_of_le_of_ne decides.ge_first ?_
    rintro rfl
    rcases decides.decisive with final | isLast
    · rw [open_] at final
      cases final
    · exact Nat.ne_of_lt more isLast
  exact ⟨later, decides.le_last, decides.decisive,
    fun k atLeast => decides.undecided k (Nat.le_of_succ_le atLeast)⟩

theorem exists_of_budget (script : Nat → Attempt β) (first budget : Nat) :
    ∃ n, Decides script first (first + budget) n := by
  induction budget generalizing first with
  | zero =>
    exact ⟨first, Nat.le_refl _, Nat.le_refl _, Or.inr rfl,
      fun k atLeast below => absurd below (Nat.not_lt.mpr atLeast)⟩
  | succ budget ih =>
    cases final : (script first).isFinal with
    | true =>
      exact ⟨first, Nat.le_refl _, Nat.le_add_right _ _, Or.inl final,
        fun k atLeast below => absurd below (Nat.not_lt.mpr atLeast)⟩
    | false =>
      obtain ⟨n, decides⟩ := ih (first + 1)
      rw [Nat.add_right_comm] at decides
      refine ⟨n, Nat.le_of_succ_le decides.ge_first, decides.le_last, decides.decisive, ?_⟩
      intro k atLeast below
      rcases Nat.eq_or_lt_of_le atLeast with rfl | later
      · exact final
      · exact decides.undecided k later below

end Decides

variable (script : Nat → Attempt β) (pause : Nat → Nat) (now : Nat)

/-- When an attempt starts if those before it are not final: the first one at once, and any other
after the one before it and the pause behind that. -/
def startOf : (attempt : Nat) → Nat
  | attempt + 2 =>
    startOf (attempt + 1) + (script (attempt + 1)).latency + pause (attempt + 1)
  | _ => now

/-- When an attempt is over. -/
def endOf (attempt : Nat) : Nat :=
  startOf script pause now attempt + (script attempt).latency

/-- The moments at which the attempts up to number `n` start, the first of them at number `from`. -/
def starts (first n : Nat) : List Nat :=
  (List.range' first (n + 1 - first)).map (startOf script pause now)

variable {script pause now}

theorem startOf_succ {attempt : Nat} (pos : 1 ≤ attempt) :
    startOf script pause now (attempt + 1) =
      endOf script pause now attempt + pause attempt := by
  obtain ⟨before, rfl⟩ := Nat.exists_eq_add_of_le' pos
  rfl

theorem endOf_le_startOf {attempt later : Nat} (pos : 1 ≤ attempt) (order : attempt < later) :
    endOf script pause now attempt ≤ startOf script pause now later := by
  induction order with
  | refl =>
    rw [startOf_succ pos]
    exact Nat.le_add_right _ _
  | @step later order ih =>
    rw [startOf_succ (Nat.le_trans pos (Nat.le_of_succ_le order))]
    exact Nat.le_trans ih (Nat.le_trans (Nat.le_add_right _ _) (Nat.le_add_right _ _))

theorem endOf_le {attempt later : Nat} (pos : 1 ≤ attempt) (order : attempt ≤ later) :
    endOf script pause now attempt ≤ endOf script pause now later := by
  rcases Nat.eq_or_lt_of_le order with rfl | before
  · exact Nat.le_refl _
  · exact Nat.le_trans (endOf_le_startOf pos before) (Nat.le_add_right _ _)

theorem startOf_le_startOf {attempt later : Nat} (pos : 1 ≤ attempt) (order : attempt ≤ later) :
    startOf script pause now attempt ≤ startOf script pause now later := by
  rcases Nat.eq_or_lt_of_le order with rfl | before
  · exact Nat.le_refl _
  · exact Nat.le_trans (Nat.le_add_right _ _) (endOf_le_startOf pos before)

theorem startOf_le_endOf {attempt later : Nat} (pos : 1 ≤ attempt) (order : attempt ≤ later) :
    startOf script pause now attempt ≤ endOf script pause now later :=
  Nat.le_trans (Nat.le_add_right _ _) (endOf_le pos order)

/-- An attempt is taken down in any case, and ends after its time if it is waited for. -/
theorem play_eq (attempt : Nat) (limit : Option Nat) (log : List Nat) :
    play script attempt limit now log =
      if Timed.isWithin limit (now + (script attempt).latency) then
        (some (now + (script attempt).latency, (script attempt).result), now :: log)
      else (none, now :: log) := by
  change (Timed.wait (script attempt).latency).bind (fun _ => Timed.pure (script attempt).result)
    limit now (now :: log) = _
  rw [Timed.wait_bind]
  rfl

theorem play_bind {α : Type} (attempt : Nat) (next : Except RpcStatus β → Timed (List Nat) α)
    (limit : Option Nat) (log : List Nat) :
    (play script attempt).bind next limit now log =
      if Timed.isWithin limit (now + (script attempt).latency) then
        next (script attempt).result limit (now + (script attempt).latency) (now :: log)
      else (none, now :: log) := by
  unfold Timed.bind
  rw [play_eq]
  cases Timed.isWithin limit (now + (script attempt).latency) <;> rfl

theorem starts_self (n : Nat) : starts script pause now n n = [startOf script pause now n] := by
  unfold starts
  rw [Nat.add_sub_cancel_left]
  rfl

theorem starts_succ {first n : Nat} (before : first < n) :
    starts script pause now first n =
      startOf script pause now first :: starts script pause now (first + 1) n := by
  unfold starts
  rw [show n + 1 - first = (n - first) + 1 by omega, List.range'_succ, List.map_cons,
    show n + 1 - (first + 1) = n - first by omega]

theorem mem_starts {first n moment : Nat} (member : moment ∈ starts script pause now first n) :
    ∃ attempt, first ≤ attempt ∧ attempt ≤ n ∧ moment = startOf script pause now attempt := by
  obtain ⟨attempt, there, rfl⟩ := List.mem_map.mp member
  obtain ⟨atLeast, below⟩ := List.mem_range'_1.mp there
  exact ⟨attempt, atLeast, by omega, rfl⟩

/-- If the attempt after the first one comes too late, so do all others. -/
theorem filter_starts_of_late {limit : Option Nat} {first n : Nat} (order : first ≤ n)
    (inTime : Timed.isWithin limit (startOf script pause now first) = true)
    (late : ∀ attempt, first < attempt → attempt ≤ n →
      Timed.isWithin limit (startOf script pause now attempt) = false) :
    (starts script pause now first n).filter (Timed.isWithin limit) =
      [startOf script pause now first] := by
  rcases Nat.eq_or_lt_of_le order with rfl | before
  · rw [starts_self, List.filter_cons_of_pos inTime, List.filter_nil]
  · rw [starts_succ before, List.filter_cons_of_pos inTime, List.filter_eq_nil_iff.mpr]
    intro moment member
    obtain ⟨attempt, later, atMost, rfl⟩ := mem_starts member
    rw [late attempt later atMost]
    exact Bool.false_ne_true

/-- If an attempt ends in time, then all up to it start in time. -/
theorem filter_starts_of_ended {limit : Option Nat} {first n : Nat} (pos : 1 ≤ first)
    (inTime : Timed.isWithin limit (endOf script pause now n) = true) :
    (starts script pause now first n).filter (Timed.isWithin limit) =
      starts script pause now first n := by
  rw [List.filter_eq_self]
  intro moment member
  obtain ⟨attempt, atLeast, atMost, rfl⟩ := mem_starts member
  exact Timed.isWithin_mono (startOf_le_endOf (Nat.le_trans pos atLeast) atMost) inTime

end Attempt

namespace RetryPolicy

open Attempt

variable {α β : Type} [Quantity α] {policy : RetryPolicy α} {jitter : Nat → Nat}
  {script : Nat → Attempt β} {pause : Nat → Nat} {now attempt : Nat}

/-- A final attempt ends the call, and any other is followed by a pause and the attempts that the
budget has left. -/
theorem retryFrom_succ (pos : 1 ≤ attempt)
    (isPause : ∀ k, pause k = policy.backoff.wait k (jitter k)) (budget : Nat)
    (limit : Option Nat) (log : List Nat) :
    policy.retryFrom jitter (play script) (budget + 1) attempt limit
        (startOf script pause now attempt) log =
      let log := startOf script pause now attempt :: log
      if Timed.isWithin limit (endOf script pause now attempt) then
        if (script attempt).isFinal then
          (some (endOf script pause now attempt, (script attempt).result), log)
        else if Timed.isWithin limit (startOf script pause now (attempt + 1)) then
          policy.retryFrom jitter (play script) budget (attempt + 1) limit
            (startOf script pause now (attempt + 1)) log
        else (none, log)
      else (none, log) := by
  change (play script attempt).bind _ limit _ log = _
  rw [play_bind]
  refine ite_congr rfl (fun _ => ?_) fun _ => rfl
  cases result : (script attempt).result with
  | ok value =>
    have final : (script attempt).isFinal = true := by rw [isFinal, result]
    rw [if_pos final]
    rfl
  | error status =>
    have final : (script attempt).isFinal = ! status.code.isRetryable := by rw [isFinal, result]
    cases retryable : status.code.isRetryable with
    | false =>
      rw [if_pos (by rw [final, retryable]; rfl)]
      simp only [retryable, Bool.false_eq_true, if_false]
      rfl
    | true =>
      rw [if_neg (by rw [final, retryable]; decide), startOf_succ pos, isPause]
      simp only [retryable, if_true]
      exact Timed.wait_bind _ _ _ _ _

/-- The course of a call from attempt number `attempt` on, if that starts within the limit: those
attempts start, up to the deciding one, whose time comes within the limit, and the call ends if the
deciding one does. -/
theorem run_retryFrom {budget n : Nat} (pos : 1 ≤ attempt)
    (decides : Decides script attempt (attempt + budget) n)
    (isPause : ∀ k, pause k = policy.backoff.wait k (jitter k)) {limit : Option Nat}
    (inTime : Timed.isWithin limit (startOf script pause now attempt) = true) (log : List Nat) :
    policy.retryFrom jitter (play script) budget attempt limit
        (startOf script pause now attempt) log =
      (if Timed.isWithin limit (endOf script pause now n) then
          some (endOf script pause now n, (script n).result) else none,
        ((starts script pause now attempt n).filter (Timed.isWithin limit)).reverse ++ log) := by
  induction budget generalizing attempt log with
  | zero =>
    have only : n = attempt := Nat.le_antisymm decides.le_last decides.ge_first
    change play script attempt limit _ log = _
    rw [only, play_eq, starts_self, List.filter_cons_of_pos inTime]
    exact (apply_ite (·, startOf script pause now attempt :: log) _ _ _).symm
  | succ budget ih =>
    have order := decides.ge_first
    rw [retryFrom_succ pos isPause]
    cases ended : Timed.isWithin limit (endOf script pause now attempt) with
    | false =>
      -- the limit comes during this attempt
      rw [Timed.late_of_le (endOf_le pos order) ended,
        filter_starts_of_late order inTime fun k later _ =>
          Timed.late_of_le (endOf_le_startOf pos later) ended]
      rfl
    | true =>
      cases final : (script attempt).isFinal with
      | true =>
        rw [decides.eq_first final, ended, starts_self, List.filter_cons_of_pos inTime]
        rfl
      | false =>
        have rest := decides.next final (Nat.lt_add_of_pos_right (Nat.succ_pos budget))
        have before : attempt < n := rest.ge_first
        have later : 1 ≤ attempt + 1 := Nat.le_add_left _ _
        cases resumed : Timed.isWithin limit (startOf script pause now (attempt + 1)) with
        | false =>
          -- the limit comes during the pause
          rw [Timed.late_of_le (startOf_le_endOf later before) resumed,
            filter_starts_of_late order inTime fun k after _ =>
              Timed.late_of_le (startOf_le_startOf later after) resumed]
          rfl
        | true =>
          rw [Nat.add_comm budget 1, ← Nat.add_assoc] at rest
          rw [starts_succ before, List.filter_cons_of_pos inTime, List.reverse_cons,
            List.append_assoc]
          exact ih later rest resumed _

/-- The course of a whole call that begins within the limit. -/
theorem run_retry {n : Nat} (decides : Decides script 1 policy.maxAttempts n)
    (isPause : ∀ k, pause k = policy.backoff.wait k (jitter k)) {limit : Option Nat}
    (inTime : Timed.isWithin limit now = true) :
    policy.retry jitter (play script) limit now [] =
      (if Timed.isWithin limit (endOf script pause now n) then
          some (endOf script pause now n, (script n).result) else none,
        ((starts script pause now 1 n).filter (Timed.isWithin limit)).reverse) := by
  rw [← Nat.add_sub_cancel' policy.maxAttempts_pos] at decides
  rw [← List.append_nil (List.reverse _)]
  exact run_retryFrom (Nat.le_refl 1) decides isPause inTime []

/-! ## A counter of 32 bits -/

section Counter

variable {σ : Type}

theorem toNat_succ_of_lt {attempt limit : UInt32} (below : attempt < limit) :
    (attempt + 1).toNat = attempt.toNat + 1 := by
  have order : attempt.toNat < limit.toNat := UInt32.lt_iff_toNat_lt.mp below
  have word := limit.toNat_lt
  rw [UInt32.toNat_add, UInt32.toNat_one]
  omega

/-- The attempts of a call from number `attempt` on, which are counted in a word: after a failure
that may pass the counter is compared with the limit, and counts on if it is below. -/
def countedFrom (backoff : Backoff α) (jitter : Nat → Nat)
    (call : (attempt : Nat) → Timed σ (Except RpcStatus β)) (limit attempt : UInt32) :
    Timed σ (Except RpcStatus β) := do
  match ← call attempt.toNat with
  | .ok value => return .ok value
  | .error status =>
    if more : status.code.isRetryable ∧ attempt < limit then
      Timed.wait (backoff.wait attempt.toNat (jitter attempt.toNat))
      countedFrom backoff jitter call limit (attempt + 1)
    else return .error status
  termination_by limit.toNat - attempt.toNat
  decreasing_by
    have order : attempt.toNat < limit.toNat := UInt32.lt_iff_toNat_lt.mp more.2
    rw [toNat_succ_of_lt more.2]
    omega

/-- The counter never overflows: the attempts are those of a counter without bounds. -/
theorem countedFrom_eq (call : (attempt : Nat) → Timed σ (Except RpcStatus β))
    (limit attempt : UInt32) :
    countedFrom policy.backoff jitter call limit attempt =
      policy.retryFrom jitter call (limit.toNat - attempt.toNat) attempt.toNat := by
  induction budget : limit.toNat - attempt.toNat generalizing attempt with
  | zero =>
    have spent : ¬ attempt < limit := by
      rw [UInt32.lt_iff_toNat_lt]
      omega
    rw [countedFrom]
    funext last now state
    change (call attempt.toNat).bind _ last now state = call attempt.toNat last now state
    unfold Timed.bind
    rcases call attempt.toNat last now state with ⟨_ | ⟨ended, _ | _⟩, after⟩
    · rfl
    · simp only [spent, and_false, dite_false]
      rfl
    · rfl
  | succ budget ih =>
    have more : attempt < limit := by
      rw [UInt32.lt_iff_toNat_lt]
      omega
    have counted := toNat_succ_of_lt more
    rw [countedFrom, retryFrom, ih (attempt + 1) (by omega), counted]
    funext last now state
    change (call attempt.toNat).bind _ last now state = (call attempt.toNat).bind _ last now state
    unfold Timed.bind
    rcases call attempt.toNat last now state with ⟨_ | ⟨ended, _ | _⟩, after⟩
    · rfl
    · simp only [more, and_true, dite_eq_ite]
    · rfl

end Counter

/-! ## A deadline -/

/-- Work under a deadline that has not passed is waited for up to that moment, and is a timeout
then. -/
theorem enforce_eq {σ γ : Type} (service : String) {now deadline : Nat}
    (notBefore : now ≤ deadline) (work : Timed σ (Except Fault γ)) (state : σ) :
    Deadline.enforce service deadline work none now state =
      match work (some deadline) now state with
      | (some result, state) => (some result, state)
      | (none, state) => (some (deadline, .error (.timeout service (deadline - now))), state) := by
  change Timed.upTo deadline _ work none now state = _
  unfold Timed.upTo
  rw [Nat.max_eq_right notBefore]
  dsimp only [Timed.earlier]
  rcases work (some deadline) now state with ⟨_ | result, after⟩ <;> rfl

variable {σ : Type}

/-- A call with a fault in place of the refusal that is left in the end. The fault may tell how long
the call has taken. -/
def retryOrFault (policy : RetryPolicy α) (jitter : Nat → Nat)
    (call : (attempt : Nat) → Timed σ (Except RpcStatus β))
    (fault : RpcStatus → (after : Nat) → Fault) : Timed σ (Except Fault β) := do
  let started ← Timed.now
  match ← policy.retry jitter call with
  | .ok value => return .ok value
  | .error status => return .error (fault status ((← Timed.now) - started))

theorem retryOrFault_eq (call : (attempt : Nat) → Timed σ (Except RpcStatus β))
    (fault : RpcStatus → (after : Nat) → Fault) (limit : Option Nat) (now : Nat) (state : σ) :
    policy.retryOrFault jitter call fault limit now state =
      match policy.retry jitter call limit now state with
      | (some (ended, result), state) =>
        (some (ended, result.mapError fun status => fault status (ended - now)), state)
      | (none, state) => (none, state) := by
  change (policy.retry jitter call).bind _ limit now state = _
  unfold Timed.bind
  rcases policy.retry jitter call limit now state with ⟨_ | ⟨ended, _ | _⟩, after⟩ <;> rfl

/-- A call that is attempted again until a deadline.

There is an attempt that decides: the first one that succeeds or fails for a reason that does not
pass, or the last one of the budget, which has one attempt at least. Without a deadline the call
ends with it, and all attempts up to it are made. If that is not after the deadline, the same comes
of the call under the deadline. Otherwise it is a timeout at the deadline, no more attempts are made
than those, and none after the deadline. A counter of 32 bits is enough for any budget of 32
bits. -/
theorem retry_until_deadline (limit : UInt32) (backoff : Backoff α) (jitter : Nat → Nat)
    (script : (attempt : Nat) → Attempt β) (service : String)
    (fault : RpcStatus → (after : Nat) → Fault) {now deadline : Nat} (notBefore : now ≤ deadline) :
    let policy := ofLimits limit.toNat backoff
    let call := policy.retry jitter (play script)
    let bounded := Deadline.enforce service deadline
      (policy.retryOrFault jitter (play script) fault)
    let pause (attempt : Nat) := backoff.wait attempt (jitter attempt)
    ∃ n, Decides script 1 (max limit.toNat 1) n ∧
      let ended := endOf script pause now n
      let started := starts script pause now 1 n
      call none now [] = (some (ended, (script n).result), started.reverse) ∧
      started.length = n ∧
      (ended ≤ deadline → bounded none now [] =
        (some (ended, (script n).result.mapError fun status => fault status (ended - now)),
          started.reverse)) ∧
      (deadline < ended → ∃ made, bounded none now [] =
        (some (deadline, .error (.timeout service (deadline - now))), made.reverse) ∧
          made = started.filter (· ≤ deadline) ∧ made.length ≤ n) ∧
      countedFrom backoff jitter (play script) limit 1 = call := by
  intro policy call bounded pause
  have isPause (attempt : Nat) : pause attempt = policy.backoff.wait attempt (jitter attempt) := rfl
  obtain ⟨n, decides⟩ := Decides.exists_of_budget script 1 (policy.maxAttempts - 1)
  rw [Nat.add_sub_cancel' policy.maxAttempts_pos] at decides
  have count : (starts script pause now 1 n).length = n := by
    rw [starts, List.length_map, List.length_range', Nat.add_sub_cancel]
  have cut := enforce_eq service notBefore (policy.retryOrFault jitter (play script) fault) []
  have begins : Timed.isWithin (some deadline) now = true := decide_eq_true notBefore
  rw [retryOrFault_eq, run_retry decides isPause begins] at cut
  refine ⟨n, decides, ?_, count, ?_, ?_, ?_⟩
  · have unlimited : Timed.isWithin none now = true := rfl
    have course := run_retry decides isPause unlimited
    rw [filter_starts_of_ended (Nat.le_refl 1) rfl] at course
    exact course
  · intro inTime
    have within : Timed.isWithin (some deadline) (endOf script pause now n) = true :=
      decide_eq_true inTime
    rw [within, filter_starts_of_ended (Nat.le_refl 1) within] at cut
    exact cut
  · intro late
    have without : Timed.isWithin (some deadline) (endOf script pause now n) = false :=
      decide_eq_false (Nat.not_le.mpr late)
    rw [without] at cut
    exact ⟨_, cut, rfl, Nat.le_trans (List.length_filter_le _ _) (Nat.le_of_eq count)⟩
  · have spent : limit.toNat - UInt32.toNat 1 = policy.maxAttempts - 1 := by
      rw [UInt32.toNat_one, show policy.maxAttempts = max limit.toNat 1 from rfl]
      omega
    change countedFrom policy.backoff jitter (play script) limit 1 = _
    rw [countedFrom_eq, spent]
    rfl

/-- The second attempt ends at the deadline and has failed, and the pause behind it is cut short. -/
theorem retry_until_deadline_pausing :
    let backoff : Backoff Rat := ⟨Duration.ofMillis 200, Duration.ofMillis 2000, 2⟩
    let script (attempt : Nat) : Attempt Nat :=
      ⟨Duration.ofMillis 50, if attempt < 3 then .error ⟨.unavailable, "down"⟩ else .ok attempt⟩
    let policy := ofLimits 4 backoff
    let deadline := Duration.ofMillis 300
    0 ≤ deadline ∧
      Deadline.enforce "reports" deadline
          (policy.retryOrFault (fun _ => 0) (play script) fun status _ =>
            .call "reports" status.code status.text) none 0 [] =
        (some (deadline, .error (.timeout "reports" deadline)), [Duration.ofMillis 250, 0]) := by
  intro backoff script policy deadline
  have notBefore : 0 ≤ deadline := Nat.zero_le _
  obtain ⟨n, decides, -, -, -, late, -⟩ := retry_until_deadline 4 backoff (fun _ => 0) script
    "reports" (fun status _ => .call "reports" status.code status.text) notBefore
  have third : n = 3 := by
    have atMost : n ≤ 3 := Nat.le_of_not_lt fun later =>
      absurd (decides.undecided 3 (by decide) later) (by decide)
    have final := decides.decisive.resolve_right (Nat.ne_of_lt (Nat.lt_succ_of_le atMost))
    match n, decides.ge_first, atMost with
    | 1, _, _ => exact absurd final (by decide)
    | 2, _, _ => exact absurd final (by decide)
    | 3, _, _ => rfl
  subst third
  obtain ⟨made, cut, isMade, -⟩ := late (by decide +kernel)
  have started : made.reverse = [Duration.ofMillis 250, 0] := by
    rw [isMade]
    decide +kernel
  rw [started] at cut
  exact ⟨notBefore, cut⟩

end RetryPolicy

end Gatehouse
