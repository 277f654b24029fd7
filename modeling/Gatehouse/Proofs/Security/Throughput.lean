import Gatehouse.Proofs.Security.Metering
import Gatehouse.Security.LimiterSchedule
import Gatehouse.Server.Basic

/-!
What a limiter lets pass over time.

A run is any sequence of checks, evictions and lengths of time, with or without the task that drops
full buckets in the background. `Lawful` says of the verdicts of a run that each is decided by those
before it, and by no more of them than are of the same client. Two things follow from that alone:
the verdicts on a client's requests depend on nothing but the moments of these requests, and in no
length of time does more pass than the capacity and what comes in meanwhile.
-/

namespace Gatehouse

open Limiter

namespace LimiterSchedule

/-- An operation on a limiter, or a length of time. -/
inductive Turn where
  | check (client : String)
  | evict
  | sleep (length : Nat)
  | stop
  deriving DecidableEq, Repr

/-- One turn, and the verdict if it was a check. -/
def step (s : LimiterSchedule Rat) : Turn → LimiterSchedule Rat × Option Verdict
  | .check client =>
    let (passes, next) := s.check client
    (next, some ⟨client, s.now, passes⟩)
  | .evict => (s.evict.2, none)
  | .sleep length => (s.sleep length, none)
  | .stop => (s.stop, none)

/-- The verdicts of a run, in order. -/
def verdicts (s : LimiterSchedule Rat) : List Turn → List Verdict
  | [] => []
  | turn :: rest =>
    match s.step turn with
    | (next, verdict) => verdict.toList ++ next.verdicts rest

/-- The checks that a run asks for, with their moments. -/
def asked (now : Nat) : List Turn → List (String × Nat)
  | [] => []
  | .check client :: rest => (client, now) :: asked now rest
  | .sleep length :: rest => asked (now + length) rest
  | .evict :: rest => asked now rest
  | .stop :: rest => asked now rest

theorem now_sleep (s : LimiterSchedule Rat) (length : Nat) :
    (s.sleep length).now = s.now + length := by
  unfold sleep
  cases s.sweeper with
  | none => rfl
  | some ticker => rfl

/-- There is a verdict on every check. -/
theorem verdicts_asked (s : LimiterSchedule Rat) (turns : List Turn) :
    (s.verdicts turns).map (fun v => (v.client, v.moment)) = asked s.now turns := by
  induction turns generalizing s with
  | nil => rfl
  | cons turn rest ih =>
    cases turn with
    | check client => exact congrArg ((client, s.now) :: ·) (ih (s.check client).2)
    | evict => exact ih s.evict.2
    | stop => exact ih s.stop
    | sleep length =>
      rw [asked, ← now_sleep]
      exact ih (s.sleep length)

theorem asked_without_evict (now : Nat) (turns : List Turn) :
    asked now (turns.filter (· ≠ .evict)) = asked now turns := by
  induction turns generalizing now with
  | nil => rfl
  | cons turn rest ih =>
    cases turn with
    | check client => exact congrArg ((client, now) :: ·) (ih now)
    | evict => exact ih now
    | stop => exact ih now
    | sleep length => exact ih (now + length)

end LimiterSchedule

/-! ## Evictions -/

theorem Limiter.Metered.evictEach {rate capacity : Rat} {limiter : Limiter Rat}
    {past : List Verdict} {now : Nat} (metered : Metered rate capacity limiter past now)
    (nonneg : 0 ≤ rate) {moments : List Nat} (before : ∀ moment ∈ moments, moment ≤ now) :
    Metered rate capacity (moments.foldl Limiter.evict limiter) past now := by
  induction moments generalizing limiter with
  | nil => exact metered
  | cons moment rest ih =>
    exact ih (metered.evict nonneg (before moment List.mem_cons_self))
      fun other member => before other (List.mem_cons_of_mem _ member)

/-! ## Lawful verdicts -/

namespace Limiter

/-- Each verdict is decided by those before it, of which `past` holds the first ones, last first. -/
def Lawful (rate capacity : Rat) : (past : List Verdict) → List Verdict → Prop
  | _, [] => True
  | past, v :: later =>
    (v.passes = true ↔ 1 ≤ capacity ∧ Within rate capacity v.client v.moment 1 past) ∧
      Lawful rate capacity (v :: past) later

end Limiter

namespace LimiterSchedule

variable {rate capacity : Rat}

/-- What a turn does to a limiter that is metered. -/
theorem metered_step {s : LimiterSchedule Rat} {past : List Verdict}
    (metered : Metered rate capacity s.limiter past s.now) (nonneg : 0 ≤ rate) (turn : Turn) :
    Metered rate capacity (s.step turn).1.limiter ((s.step turn).2.toList ++ past)
      (s.step turn).1.now := by
  cases turn with
  | check client => exact metered.check client
  | evict => exact metered.evict nonneg (Nat.le_refl _)
  | stop => exact metered
  | sleep length =>
    have after : s.now ≤ s.now + length := Nat.le_add_right _ _
    change Metered rate capacity (s.sleep length).limiter past (s.sleep length).now
    unfold sleep
    cases s.sweeper with
    | none => exact metered.later after
    | some ticker =>
      refine (metered.later after).evictEach nonneg ?_
      intro moment member
      exact Nat.le_of_lt_succ (Ticker.lt_of_mem_before member)

theorem lawful_verdicts {s : LimiterSchedule Rat} {past : List Verdict}
    (metered : Metered rate capacity s.limiter past s.now) (nonneg : 0 ≤ rate)
    (turns : List Turn) : Lawful rate capacity past (s.verdicts turns) := by
  induction turns generalizing s past with
  | nil => exact trivial
  | cons turn rest ih =>
    have next := ih (metered_step metered nonneg turn)
    cases turn with
    | check client => exact ⟨metered.passes_iff client, next⟩
    | evict => exact next
    | sleep length => exact next
    | stop => exact next

end LimiterSchedule

namespace Limiter

variable {rate capacity : Rat}

/-! ## One client among others -/

/-- The verdicts on a client's requests. -/
def ofClient (client : String) (verdicts : List Verdict) : List Verdict :=
  verdicts.filter fun v => v.client = client

theorem ofClient_cons_of_eq {client : String} {v : Verdict} (same : v.client = client)
    (rest : List Verdict) : ofClient client (v :: rest) = v :: ofClient client rest := by
  simp only [ofClient, List.filter_cons, same, decide_true, if_true]

theorem ofClient_cons_of_ne {client : String} {v : Verdict} (different : v.client ≠ client)
    (rest : List Verdict) : ofClient client (v :: rest) = ofClient client rest := by
  simp only [ofClient, List.filter_cons, different, decide_false, Bool.false_eq_true, if_false]

theorem map_ofClient (client : String) (verdicts : List Verdict) :
    (ofClient client verdicts).map (fun v => (v.client, v.moment)) =
      (verdicts.map fun v => (v.client, v.moment)).filter (·.1 = client) := by
  rw [List.filter_map]
  rfl

theorem within_ofClient {client : String} {moment : Nat} {amount : Rat} {past : List Verdict} :
    Within rate capacity client moment amount (ofClient client past) ↔
      Within rate capacity client moment amount past := by
  induction past generalizing amount with
  | nil => exact Iff.rfl
  | cons v earlier ih =>
    by_cases same : v.client = client
    · rw [ofClient_cons_of_eq same, Within, Within, if_pos same, if_pos same, ih]
    · rw [ofClient_cons_of_ne same, ih, Within, if_neg same]

/-- Leaving out the requests of all others leaves the verdicts lawful. -/
theorem Lawful.ofClient {past verdicts : List Verdict} (client : String)
    (lawful : Lawful rate capacity past verdicts) :
    Lawful rate capacity (ofClient client past) (ofClient client verdicts) := by
  induction verdicts generalizing past with
  | nil => exact trivial
  | cons v later ih =>
    obtain ⟨decided, lawfulLater⟩ := lawful
    have rest := ih lawfulLater
    by_cases same : v.client = client
    · rw [ofClient_cons_of_eq same] at rest ⊢
      refine ⟨?_, rest⟩
      subst same
      rw [decided]
      exact and_congr_right fun _ => within_ofClient.symm
    · rw [ofClient_cons_of_ne same] at rest ⊢
      exact rest

/-- Verdicts that are lawful are determined by the clients and the moments. -/
theorem Lawful.eq {past verdicts others : List Verdict}
    (lawful : Lawful rate capacity past verdicts) (lawfulOthers : Lawful rate capacity past others)
    (same : others.map (fun v => (v.client, v.moment)) =
      verdicts.map fun v => (v.client, v.moment)) : others = verdicts := by
  induction verdicts generalizing past others with
  | nil => exact List.map_eq_nil_iff.mp same
  | cons v later ih =>
    cases others with
    | nil => cases same
    | cons w rest =>
      obtain ⟨client, moment, passes⟩ := v
      obtain ⟨otherClient, otherMoment, otherPasses⟩ := w
      rw [List.map_cons, List.map_cons, List.cons.injEq, Prod.mk.injEq] at same
      obtain ⟨⟨rfl, rfl⟩, sameRest⟩ := same
      have samePasses : otherPasses = passes :=
        Bool.eq_iff_iff.mpr (lawfulOthers.1.trans lawful.1.symm)
      subst samePasses
      rw [ih lawful.2 lawfulOthers.2 sameRest]

/-! ## Counting -/

/-- How many requests of a client have passed. -/
def passed (client : String) (verdicts : List Verdict) : Nat :=
  verdicts.countP fun v => v.client = client ∧ v.passes

theorem passed_append (client : String) (first rest : List Verdict) :
    passed client (first ++ rest) = passed client first + passed client rest :=
  List.countP_append

theorem passed_singleton_of_eq {client : String} {v : Verdict} (same : v.client = client) :
    (passed client [v] : Rat) = v.cost := by
  unfold passed Verdict.cost
  rw [List.countP_singleton]
  cases passes : v.passes <;> simp [same]

theorem passed_singleton_of_ne {client : String} {v : Verdict} (different : v.client ≠ client) :
    passed client [v] = 0 := by
  unfold passed
  rw [List.countP_singleton]
  simp [different]

/-- What holds at every place of a list with one more at its end. -/
theorem forall_getElem?_concat {α : Type} {l : List α} {last : α} {holds : Nat → α → Prop} :
    (∀ i a, (l ++ [last])[i]? = some a → holds i a) ↔
      (∀ i a, l[i]? = some a → holds i a) ∧ holds l.length last := by
  constructor
  · intro all
    refine ⟨fun i a found => all i a ?_, all l.length last List.getElem?_concat_length⟩
    rw [List.getElem?_append_left (List.getElem?_eq_some_iff.mp found).1]
    exact found
  · rintro ⟨before, atEnd⟩ i a found
    rcases Nat.lt_trichotomy i l.length with inside | rfl | outside
    · rw [List.getElem?_append_left inside] at found
      exact before i a found
    · rw [List.getElem?_concat_length] at found
      cases found
      exact atEnd
    · have tooFar : (l ++ [last]).length ≤ i := by
        rw [List.length_append, List.length_singleton]
        exact outside
      rw [List.getElem?_eq_none tooFar] at found
      cases found

/-- The bounds that checks set, each counted from its check on. -/
theorem within_iff {client : String} {moment : Nat} {amount : Rat} {past : List Verdict} :
    Within rate capacity client moment amount past ↔
      ∀ i v, past.reverse[i]? = some v → v.client = client →
        amount + passed client (past.reverse.drop i) ≤
          capacity + income rate (moment - v.moment) := by
  induction past generalizing amount with
  | nil => exact iff_of_true trivial nofun
  | cons last earlier ih =>
    have counts (i : Nat) (v : Verdict) (found : earlier.reverse[i]? = some v) :
        amount + passed client ((earlier.reverse ++ [last]).drop i) =
          amount + passed client [last] + (passed client (earlier.reverse.drop i) : Rat) := by
      have inside : i ≤ earlier.reverse.length :=
        Nat.le_of_lt (List.getElem?_eq_some_iff.mp found).1
      rw [List.drop_append_of_le_length inside, passed_append, Nat.cast_add]
      ring
    have earlierBounds :
        Within rate capacity client moment (amount + passed client [last]) earlier ↔ ∀ i v,
          earlier.reverse[i]? = some v → v.client = client →
          amount + passed client ((earlier.reverse ++ [last]).drop i) ≤
            capacity + income rate (moment - v.moment) := by
      rw [ih]
      refine forall_congr' fun i => forall_congr' fun v => forall_congr' fun found => ?_
      rw [counts i v found]
    rw [List.reverse_cons, forall_getElem?_concat, List.drop_left, ← earlierBounds, Within]
    split
    · rename_i same
      rw [passed_singleton_of_eq same, and_comm]
      exact and_congr_right fun _ => ⟨fun bound _ => bound, fun bound => bound same⟩
    · rename_i different
      rw [passed_singleton_of_ne different, Nat.cast_zero, add_zero]
      exact (and_iff_left fun same => absurd same different).symm

/-- A verdict among verdicts that are lawful. -/
theorem Lawful.decided {past before after : List Verdict} {v : Verdict}
    (lawful : Lawful rate capacity past (before ++ v :: after)) :
    v.passes = true ↔
      1 ≤ capacity ∧ Within rate capacity v.client v.moment 1 (before.reverse ++ past) := by
  induction before generalizing past with
  | nil => exact lawful.1
  | cons first rest ih =>
    rw [List.reverse_cons, List.append_assoc]
    exact ih lawful.2

/-- A request passes exactly if it is within the bounds of all checks of its client up to its own.
-/
theorem Lawful.passes_iff {verdicts : List Verdict} (lawful : Lawful rate capacity [] verdicts)
    {n : Nat} {v : Verdict} (found : verdicts[n]? = some v) :
    v.passes = true ↔ ∀ i ≤ n, ∀ w, verdicts[i]? = some w → w.client = v.client →
      1 + passed v.client ((verdicts.take n).drop i) ≤
        capacity + income rate (v.moment - w.moment) := by
  obtain ⟨inside, isAt⟩ := List.getElem?_eq_some_iff.mp found
  have split : verdicts.take n ++ v :: verdicts.drop (n + 1) = verdicts := by
    rw [← isAt, List.getElem_cons_drop, List.take_append_drop]
  rw [← split] at lawful
  rw [lawful.decided, List.append_nil, within_iff, List.reverse_reverse]
  have own : (1 : Rat) + passed v.client ((verdicts.take n).drop n) ≤
      capacity + income rate (v.moment - v.moment) ↔ 1 ≤ capacity := by
    have none : (verdicts.take n).drop n = [] :=
      List.drop_eq_nil_of_le (List.length_take_le _ _)
    rw [none]
    unfold passed income
    rw [List.countP_nil, Nat.cast_zero, add_zero, sub_self, zero_div, mul_zero, add_zero]
  constructor
  · rintro ⟨enough, within⟩ i upTo w foundW same
    rcases Nat.lt_or_eq_of_le upTo with before | rfl
    · refine within i w ?_ same
      rw [List.getElem?_take_of_lt before]
      exact foundW
    · rw [found] at foundW
      cases foundW
      exact own.mpr enough
  · intro bounds
    refine ⟨own.mp (bounds n (Nat.le_refl n) v found rfl), ?_⟩
    intro i w foundW same
    have before : i < n :=
      Nat.lt_of_lt_of_le (List.getElem?_eq_some_iff.mp foundW).1 (List.length_take_le _ _)
    rw [List.getElem?_take_of_lt before] at foundW
    exact bounds i (Nat.le_of_lt before) w foundW same

/-! ## Lengths of time -/

/-- Whether a request of a client has passed in a length of time. -/
def Verdict.passesWithin (client : String) (start length : Nat) (v : Verdict) : Bool :=
  v.client = client ∧ v.passes ∧ start ≤ v.moment ∧ v.moment ≤ start + length

theorem countP_passesWithin_le (client : String) (start length : Nat) (verdicts : List Verdict) :
    verdicts.countP (Verdict.passesWithin client start length) ≤ passed client verdicts := by
  refine List.countP_mono_left ?_
  intro v _ counted
  have all := of_decide_eq_true counted
  exact decide_eq_true ⟨all.1, all.2.1⟩

/-- There is none before the first. -/
theorem countP_drop_findIdx {α : Type} (p : α → Bool) (l : List α) :
    (l.drop (l.findIdx p)).countP p = l.countP p := by
  have none : (l.take (l.findIdx p)).countP p = 0 := by
    rw [List.countP_eq_zero]
    intro a member
    obtain ⟨i, before, rfl⟩ := List.getElem_of_mem member
    rw [List.length_take] at before
    rw [List.getElem_take]
    exact ne_true_of_eq_false
      (List.not_of_lt_findIdx (Nat.lt_of_lt_of_le before (Nat.min_le_left _ _)))
  conv_rhs => rw [← List.take_append_drop (l.findIdx p) l, List.countP_append, none, Nat.zero_add]

/-- What has passed in a length of time, from the first one on up to one that passes as well, is
bounded by the check of the first. -/
theorem Lawful.countP_succ_le {verdicts : List Verdict} (lawful : Lawful rate capacity [] verdicts)
    (rateNonneg : 0 ≤ rate) {client : String} {start length n : Nat} {v : Verdict}
    (found : verdicts[n]? = some v) (counted : v.passesWithin client start length = true) :
    ((verdicts.take n).countP (Verdict.passesWithin client start length) + 1 : Rat) ≤
      capacity + income rate length := by
  have inside : n < verdicts.length := (List.getElem?_eq_some_iff.mp found).1
  have lengthTake : (verdicts.take n).length = n := List.length_take_of_le (Nat.le_of_lt inside)
  let first := (verdicts.take n).findIdx (Verdict.passesWithin client start length)
  have upTo : first ≤ n := by
    rw [← lengthTake]
    exact List.findIdx_le_length
  obtain ⟨w, foundW, countedW⟩ :
      ∃ w, verdicts[first]? = some w ∧ w.passesWithin client start length = true := by
    rcases Nat.lt_or_eq_of_le upTo with before | isLast
    · have present : first < (verdicts.take n).length := by rw [lengthTake]; exact before
      refine ⟨(verdicts.take n)[first], ?_, List.findIdx_getElem⟩
      rw [← List.getElem?_eq_getElem present, List.getElem?_take_of_lt before]
    · exact ⟨v, isLast ▸ found, counted⟩
  obtain ⟨sameClient, passes, -, notAfter⟩ := of_decide_eq_true counted
  obtain ⟨sameClientW, -, notBefore, -⟩ := of_decide_eq_true countedW
  have bound := (lawful.passes_iff found).mp passes first upTo w foundW
    (sameClientW.trans sameClient.symm)
  have counts : (verdicts.take n).countP (Verdict.passesWithin client start length) ≤
      passed v.client ((verdicts.take n).drop first) := by
    rw [← countP_drop_findIdx, sameClient]
    exact countP_passesWithin_le client start length _
  have countsRat : ((verdicts.take n).countP (Verdict.passesWithin client start length) : Rat) ≤
      passed v.client ((verdicts.take n).drop first) := Nat.cast_le.mpr counts
  have span : (v.moment : Rat) - w.moment ≤ length := by
    have notAfterRat : (v.moment : Rat) ≤ start + length := by exact_mod_cast notAfter
    have notBeforeRat : (start : Rat) ≤ w.moment := Nat.cast_le.mpr notBefore
    linarith
  have earned : income rate (v.moment - w.moment) ≤ income rate length := by
    unfold income
    exact mul_le_mul_of_nonneg_left (by linarith) rateNonneg
  linarith

/-- In no length of time does more pass than the capacity and what comes in meanwhile. -/
theorem Lawful.countP_le {verdicts : List Verdict} (lawful : Lawful rate capacity [] verdicts)
    (rateNonneg : 0 ≤ rate) (capacityNonneg : 0 ≤ capacity) (client : String)
    (start length : Nat) :
    (verdicts.countP (Verdict.passesWithin client start length) : Rat) ≤
      capacity + income rate length := by
  -- the last one counted is reached by taking more and more of the verdicts
  suffices upTo : ∀ n,
      ((verdicts.take n).countP (Verdict.passesWithin client start length) : Rat) ≤
        capacity + income rate length by
    have all := upTo verdicts.length
    rw [List.take_length] at all
    exact all
  intro n
  induction n with
  | zero =>
    have earned : 0 ≤ income rate length :=
      mul_nonneg rateNonneg (div_nonneg (Nat.cast_nonneg _) (by norm_num))
    rw [List.take_zero, List.countP_nil, Nat.cast_zero]
    exact add_nonneg capacityNonneg earned
  | succ n ih =>
    rw [List.take_add_one]
    cases found : verdicts[n]? with
    | none =>
      rw [Option.toList_none, List.append_nil]
      exact ih
    | some v =>
      rw [Option.toList_some, List.countP_append, List.countP_singleton, Nat.cast_add]
      split
      · rename_i counted
        rw [Nat.cast_one]
        exact lawful.countP_succ_le rateNonneg found counted
      · rw [Nat.cast_zero, add_zero]
        exact ih

end Limiter

/-! ## Requests -/

namespace Server

/-- What the limiter of a server sees: a request from an address, whatever its head says, the
dropping of full buckets, or a length of time. -/
inductive Visit where
  | request (ip : Net.IpAddr) (head : Request.Head)
  | evict
  | sleep (length : Nat)

/-- A visit to the limiter alone. -/
def Visit.turn : Visit → LimiterSchedule.Turn
  | .request ip _ => .check ip.text
  | .evict => .evict
  | .sleep length => .sleep length

/-- Which requests are within the rates of their clients. -/
def admissions (server : Server Rat) (now : Nat) : List Visit → List Bool
  | [] => []
  | .request ip head :: rest =>
    match server.withinRate { head with peer := some ip } now with
    | (passes, next) => passes :: next.admissions now rest
  | .evict :: rest =>
    let limiter := server.limiter.map fun limiter => limiter.evict now
    admissions { server with limiter } now rest
  | .sleep length :: rest => server.admissions (now + length) rest

theorem admissions_eq {server : Server Rat} {limiter : Limiter Rat}
    (limited : server.limiter = some limiter) (now : Nat) (visits : List Visit) :
    server.admissions now visits =
      (LimiterSchedule.verdicts { now, limiter } (visits.map Visit.turn)).map Verdict.passes := by
  induction visits generalizing server limiter now with
  | nil => rfl
  | cons visit rest ih =>
    cases visit with
    | request ip head =>
      have passing : server.withinRate { head with peer := some ip } now =
          ((limiter.check ip.text now).1,
            { server with limiter := some (limiter.check ip.text now).2 }) := by
        rw [withinRate, limited]
        rfl
      rw [admissions, passing]
      exact congrArg ((limiter.check ip.text now).1 :: ·) (ih rfl now)
    | evict =>
      rw [admissions, limited]
      exact ih rfl now
    | sleep length => exact ih limited (now + length)

end Server

/-- What passes at a limiter that drops full buckets whenever it is told to, and also at intervals.

A request passes exactly if, from every check of its client on, its own included, no more than the
capacity and what has come in since has passed with it. So no length of time lets more pass than the
capacity and what comes in meanwhile. The verdicts on the requests of a client are the same however
many others ask and whenever buckets are dropped, as long as the client asks at the same moments.
And a server whose clients are known by their addresses decides by these, whatever the heads of the
requests say. -/
theorem LimiterSchedule.passes_within_bounds (config : Config.RateLimit) (period : Option Nat)
    (turns : List Turn) :
    let rate : Rat := config.requestsPerSecond
    let capacity : Rat := (max config.burstSize 1 : Nat)
    let start (period : Option Nat) : LimiterSchedule Rat := .start (.ofConfig config) period
    let verdicts := (start period).verdicts turns
    verdicts.map (fun v => (v.client, v.moment)) = asked 0 turns ∧
    (∀ n v, verdicts[n]? = some v →
      (v.passes = true ↔ ∀ i ≤ n, ∀ w, verdicts[i]? = some w → w.client = v.client →
        1 + passed v.client ((verdicts.take n).drop i) ≤
          capacity + income rate (v.moment - w.moment))) ∧
    (∀ client first length,
      (verdicts.countP (Verdict.passesWithin client first length) : Rat) ≤
        capacity + income rate length) ∧
    (∀ client otherPeriod others,
      (asked 0 others).filter (·.1 = client) = (asked 0 turns).filter (·.1 = client) →
      ofClient client ((start otherPeriod).verdicts others) = ofClient client verdicts) ∧
    (start none).verdicts (turns.filter (· ≠ .evict)) = verdicts ∧
    ∀ (server : Server Rat) visits, server.limiter = some (.ofConfig config) →
      server.admissions 0 visits =
        ((start none).verdicts (visits.map Server.Visit.turn)).map Verdict.passes := by
  intro rate capacity start verdicts
  have rateNonneg : 0 ≤ rate := Nat.cast_nonneg _
  have lawful (period : Option Nat) (turns : List Turn) :
      Lawful rate capacity [] ((start period).verdicts turns) :=
    lawful_verdicts (Metered.ofRates config.requestsPerSecond config.burstSize) rateNonneg turns
  refine ⟨verdicts_asked _ turns, ?_, ?_, ?_, ?_, ?_⟩
  · intro n v found
    exact (lawful period turns).passes_iff found
  · intro client first length
    exact (lawful period turns).countP_le rateNonneg (Nat.cast_nonneg _) client first length
  · intro client otherPeriod others sameAsked
    refine Lawful.eq ((lawful period turns).ofClient client)
      ((lawful otherPeriod others).ofClient client) ?_
    rw [map_ofClient, map_ofClient, verdicts_asked, verdicts_asked]
    exact sameAsked
  · refine Lawful.eq (lawful period turns) (lawful none _) ?_
    rw [verdicts_asked, verdicts_asked]
    exact asked_without_evict 0 turns
  · intro server visits limited
    exact Server.admissions_eq limited 0 visits

end Gatehouse
