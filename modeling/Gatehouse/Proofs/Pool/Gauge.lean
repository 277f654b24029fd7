import Gatehouse.Proofs.Pool.Callers

/-!
What the gauge of the pool shows.

The gauge is set when a channel has come in, after an eviction, and when all channels have been
closed. It is not set when an acquisition discards a channel. This does not show if the dial that
follows succeeds. But if the dial fails, the gauge shows a channel too many until it is set again.
`Mark` says which of this an operation does, and the theorem at the end counts.
-/

namespace Gatehouse

/-! ## A gauge among the series -/

namespace Metrics

/-- The series of the number of channels in the pool. -/
def poolGauge : Series := ⟨"gateway_pool_connections", []⟩

theorem totals_concat (events : List Event) (event : Event) :
    totals (events ++ [event]) =
      event.samples.foldl (fun values s => record values s.1 s.2) (totals events) := by
  rw [totals, List.flatMap_append, List.foldl_append, List.flatMap_singleton, totals]

/-- The name of a series can be read off its text. -/
theorem takeWhile_text {series : Series} (plain : '\x7b' ∉ series.name.toList) :
    series.text.toList.takeWhile (· != '\x7b') = series.name.toList := by
  have inName : ∀ c ∈ series.name.toList, (c != '\x7b') = true := fun c member =>
    bne_iff_ne.mpr fun same => plain (same ▸ member)
  rw [Series.text, String.toList_append, String.toList_append, String.toList_append,
    List.append_assoc, List.append_assoc, List.takeWhile_append_of_pos inName]
  exact List.append_nil _

/-- A series with another name than the gauge, and with a name that ends where its labels begin. -/
def Series.Apart (series : Series) : Prop :=
  '\x7b' ∉ series.name.toList ∧ series.name ≠ poolGauge.name

theorem Series.Apart.text_ne {series : Series} (apart : series.Apart) :
    poolGauge.text ≠ series.text := by
  intro same
  have names : poolGauge.text.toList.takeWhile (· != '\x7b') =
      series.text.toList.takeWhile (· != '\x7b') := by rw [same]
  rw [takeWhile_text (by decide), takeWhile_text apart.1] at names
  exact apart.2 (String.toList_inj.mp names.symm)

theorem get?_record_each {samples : List (Series × Sample)} (apart : ∀ s ∈ samples, s.1.Apart)
    (values : Dict Nat) :
    (samples.foldl (fun values s => record values s.1 s.2) values).get? poolGauge.text =
      values.get? poolGauge.text := by
  induction samples generalizing values with
  | nil => rfl
  | cons s rest ih =>
    rw [List.foldl_cons, ih fun other member => apart other (List.mem_cons_of_mem _ member), record,
      Dict.get?_insert, if_neg (apart s List.mem_cons_self).text_ne]

theorem apart_of_mem_samples {event : Event} (other : ∀ count, event ≠ .poolSize count)
    {s : Series × Sample} (member : s ∈ event.samples) : s.1.Apart := by
  unfold Series.Apart
  cases event with
  | poolSize count => exact absurd rfl (other count)
  | request method status module | upload files bytes =>
    rw [Event.samples, List.mem_cons, List.mem_singleton] at member
    rcases member with rfl | rfl
    all_goals
      dsimp only
      decide
  | lookup outcome | dial succeeded | rateLimited =>
    rw [List.mem_singleton.mp member]
    dsimp only
    decide

theorem lastPoolSize?_concat (events : List Event) (event : Event) :
    lastPoolSize? (events ++ [event]) =
      match event with
      | .poolSize count => some count
      | _ => lastPoolSize? events := by
  rw [lastPoolSize?, List.foldl_append]
  rfl

/-- Nothing else is recorded under the name of the gauge, so it shows what it was last set to. -/
theorem totals_poolGauge (events : List Event) :
    (totals events).get? poolGauge.text = lastPoolSize? events := by
  induction events using List.reverseRecOn with
  | nil => rfl
  | append_singleton events event ih =>
    rw [totals_concat, lastPoolSize?_concat, ← ih]
    cases event with
    | poolSize count =>
      change (record _ poolGauge _).get? _ = _
      rw [record, Dict.get?_insert, if_pos rfl]
      rfl
    | request | lookup | dial | rateLimited | upload =>
      refine get?_record_each (fun _ => apart_of_mem_samples ?_) _
      nofun

end Metrics

namespace Pool

variable {γ : Type}

theorem size_discard {pool : Pool γ} {address : String} {number : Nat}
    (holds : pool.holds address number = true) :
    (pool.discard address number).size + 1 = pool.size := by
  obtain ⟨entry, held, -⟩ := holds_iff.mp holds
  rw [discard, if_pos holds]
  exact Dict.size_erase held

end Pool

namespace PoolSchedule

variable {γ : Type}

/-! ## One operation after the other -/

/-- Something that is done to a pool, with nothing else done to it meanwhile. -/
inductive Operation where
  /-- A channel is acquired. If that takes a dial, the dial takes this long. -/
  | acquire (host port : String) (latency : Nat)
  | observe (channel : Nat) (code : RpcCode)
  | markFailing (channel : Nat)
  | evict
  | closeAll
  | sleep (length : Nat)

def perform (s : PoolSchedule γ) : Operation → PoolSchedule γ
  | .acquire host port latency => (s.race host port [latency]).2
  | .observe channel code => { s with pool := s.pool.observe channel code }
  | .markFailing channel => { s with pool := s.pool.markFailing channel }
  | .evict => s.evict.2
  | .closeAll => s.closeAll
  | .sleep length => s.sleep length

def performAll (s : PoolSchedule γ) (operations : List Operation) : PoolSchedule γ :=
  operations.foldl perform s

/-- What an operation does to the agreement between the gauge and the pool. -/
inductive Mark where
  /-- The number of channels is recorded at the end. -/
  | records
  /-- A channel is discarded, and the number of those that are left is not recorded. -/
  | loses
  /-- Neither the number of channels changes nor the gauge. -/
  | passes
  deriving DecidableEq, Repr

/-- An acquisition loses a channel if it finds one that is not fit for use, and cannot dial another
one for it. -/
def mark (s : PoolSchedule γ) : Operation → Mark
  | .acquire host port _ =>
    if host = "" ∨ port = "" then .passes
    else
      let address := Pool.addressOf host port
      match s.pool.find address s.now, s.dialer (s.dials + 1) address with
      | .fit _, _ => .passes
      | _, .ok _ => .records
      | .unfit _, .error _ => .loses
      | .nothing, .error _ => .passes
  | .evict | .closeAll => .records
  | .observe _ _ | .markFailing _ | .sleep _ => .passes

def marks (s : PoolSchedule γ) : List Operation → List Mark
  | [] => []
  | operation :: rest => s.mark operation :: (s.perform operation).marks rest

/-! ## How far the gauge lags behind -/

/-- The number of channels that have been lost since the last recording, if there is one. -/
def lag (marks : List Mark) : Option Nat :=
  marks.foldl (fun lag mark =>
    match mark with
    | .records => some 0
    | .loses => lag.map (· + 1)
    | .passes => lag) none

theorem lag_concat (marks : List Mark) (mark : Mark) :
    lag (marks ++ [mark]) =
      match mark with
      | .records => some 0
      | .loses => (lag marks).map (· + 1)
      | .passes => lag marks := by
  rw [lag, List.foldl_append]
  rfl

theorem lag_eq_none {marks : List Mark} (unrecorded : .records ∉ marks) : lag marks = none := by
  induction marks using List.reverseRecOn with
  | nil => rfl
  | append_singleton marks mark ih =>
    rw [List.mem_append, not_or, List.mem_singleton] at unrecorded
    rw [lag_concat, ih unrecorded.1]
    cases mark with
    | records => exact absurd rfl unrecorded.2
    | loses | passes => rfl

theorem lag_eq_some (early : List Mark) {late : List Mark} (unrecorded : .records ∉ late) :
    lag (early ++ .records :: late) = some (late.count .loses) := by
  induction late using List.reverseRecOn with
  | nil => exact lag_concat early .records
  | append_singleton late mark ih =>
    rw [List.mem_append, not_or, List.mem_singleton] at unrecorded
    rw [← List.cons_append, ← List.append_assoc, lag_concat, ih unrecorded.1, List.count_append]
    cases mark with
    | records => exact absurd rfl unrecorded.2
    | loses | passes => rfl

/-- The gauge shows what is in the pool and what has been lost unnoticed. -/
structure Shows (s : PoolSchedule γ) (marks : List Mark) : Prop where
  alone : s.evictor = none
  gauge : Metrics.lastPoolSize? s.events = (lag marks).map (s.pool.size + ·)

theorem Shows.start (ttl : Nat) (dialer : (number : Nat) → (address : String) → Except Fault γ) :
    Shows { pool := { ttl }, dialer } [] :=
  ⟨rfl, rfl⟩

variable {s s' : PoolSchedule γ} {marks : List Mark}

theorem Shows.passes (shows : Shows s marks) (alone : s'.evictor = none)
    (silent : Metrics.lastPoolSize? s'.events = Metrics.lastPoolSize? s.events)
    (unchanged : s'.pool.size = s.pool.size) : Shows s' (marks ++ [.passes]) := by
  refine ⟨alone, ?_⟩
  rw [lag_concat, silent, unchanged]
  exact shows.gauge

theorem Shows.loses (shows : Shows s marks) (alone : s'.evictor = none)
    (silent : Metrics.lastPoolSize? s'.events = Metrics.lastPoolSize? s.events)
    (lost : s'.pool.size + 1 = s.pool.size) : Shows s' (marks ++ [.loses]) := by
  refine ⟨alone, ?_⟩
  rw [lag_concat, silent, shows.gauge, Option.map_map, ← lost]
  congr 1
  funext unnoticed
  exact Nat.add_right_comm s'.pool.size 1 unnoticed

theorem Shows.records (alone : s'.evictor = none)
    (recorded : Metrics.lastPoolSize? s'.events = some s'.pool.size) :
    Shows s' (marks ++ [.records]) := by
  refine ⟨alone, ?_⟩
  rw [lag_concat, recorded]
  rfl

/-- An acquisition by itself waits for its own dial. -/
theorem race_one (alone : s.evictor = none) (host port : String) (latency : Nat) :
    (s.race host port [latency]).2 =
      match s.pool.beginAcquire host port s.now with
      | (.dialing address, pool) =>
        let (dialed, next) := { s with pool }.dial address
        ({ next with now := s.now + latency }.endDial address dialed).2
      | (_, pool) => { s with pool } := by
  unfold race
  cases begins : s.pool.beginAcquire host port s.now with
  | mk acquisition pool =>
    cases acquisition with
    | refused fault => simp only [beginEach, begins, List.mergeSort_nil, endEach]
    | reused channel => simp only [beginEach, begins, List.mergeSort_nil, endEach]
    | dialing address =>
      by_cases atOnce : latency = 0
      · simp only [beginEach, begins, dial, atOnce, if_true, List.mergeSort_nil, endEach,
          Nat.add_zero]
      · simp only [beginEach, begins, dial, atOnce, if_false, List.mergeSort_singleton, endEach,
          waitFor, advance, alone]

theorem lastPoolSize?_endDial_ok (s : PoolSchedule γ) (address : String) (line : γ) :
    Metrics.lastPoolSize? (s.endDial address (.ok line)).2.events =
      some (s.endDial address (.ok line)).2.pool.size := by
  unfold endDial
  rw [Metrics.lastPoolSize?, List.foldl_append]
  rfl

theorem lastPoolSize?_endDial_error (s : PoolSchedule γ) (address : String) (fault : Fault) :
    Metrics.lastPoolSize? (s.endDial address (.error fault)).2.events =
      Metrics.lastPoolSize? s.events :=
  Metrics.lastPoolSize?_concat s.events (.dial false)

/-- The gauge is set if a dial succeeds, whatever the look has found. Else what counts is whether
the look has discarded a channel. -/
theorem Shows.acquire (shows : Shows s marks) (host port : String) (latency : Nat) :
    Shows (s.perform (.acquire host port latency))
      (marks ++ [s.mark (.acquire host port latency)]) := by
  rw [perform, race_one shows.alone, mark]
  by_cases nameless : host = "" ∨ port = ""
  · rw [if_pos nameless, Pool.refused_of_nameless nameless]
    exact shows.passes shows.alone rfl rfl
  · rw [if_neg nameless, Pool.beginAcquire_named nameless]
    cases found : s.pool.find (Pool.addressOf host port) s.now with
    | fit channel =>
      simp only [found]
      exact shows.passes shows.alone rfl rfl
    | nothing =>
      cases dialed : s.dialer (s.dials + 1) (Pool.addressOf host port) with
      | ok line =>
        simp only [found, dial, dialed]
        exact Shows.records shows.alone (lastPoolSize?_endDial_ok _ _ line)
      | error fault =>
        simp only [found, dial, dialed]
        exact shows.passes shows.alone (lastPoolSize?_endDial_error _ _ fault) rfl
    | unfit channel =>
      cases dialed : s.dialer (s.dials + 1) (Pool.addressOf host port) with
      | ok line =>
        simp only [found, dial, dialed]
        exact Shows.records shows.alone (lastPoolSize?_endDial_ok _ _ line)
      | error fault =>
        simp only [found, dial, dialed]
        exact shows.loses shows.alone (lastPoolSize?_endDial_error _ _ fault)
          (Pool.size_discard (Pool.find_eq_unfit found))

theorem Shows.step (shows : Shows s marks) (operation : Operation) :
    Shows (s.perform operation) (marks ++ [s.mark operation]) := by
  cases operation with
  | acquire host port latency => exact shows.acquire host port latency
  | observe channel code =>
    refine shows.passes shows.alone rfl ?_
    rcases Pool.pool_observe s.pool channel code with same | same
    · exact congrArg Pool.size same
    · exact (congrArg Pool.size same).trans
        (congrArg Dict.size (Pool.entries_markFailing s.pool channel))
  | markFailing channel =>
    exact shows.passes shows.alone rfl
      (congrArg Dict.size (Pool.entries_markFailing s.pool channel))
  | evict =>
    refine Shows.records shows.alone ?_
    exact Metrics.lastPoolSize?_concat s.events (s.pool.evict s.now).sizeEvent
  | closeAll =>
    refine Shows.records shows.alone ?_
    exact Metrics.lastPoolSize?_concat s.events s.pool.closeAll.sizeEvent
  | sleep length =>
    rw [perform, sleep, advance, shows.alone]
    exact shows.passes shows.alone rfl rfl

theorem Shows.run (shows : Shows s marks) (operations : List Operation) :
    Shows (s.performAll operations) (marks ++ s.marks operations) := by
  induction operations generalizing s marks with
  | nil =>
    rw [PoolSchedule.marks, List.append_nil]
    exact shows
  | cons operation rest ih =>
    have next := ih (shows.step operation)
    rw [List.append_assoc, List.singleton_append] at next
    exact next

/-! ## What the gauge shows -/

/-- Whatever is done to a pool that was empty, one operation after the other: the gauge shows
nothing as long as nothing has been recorded. From a recording on it shows the number of channels in
the pool and of those that were lost since then, so it is right exactly if no acquisition has
discarded a channel since then without getting another one. -/
theorem gauge_of_run (ttl : Nat) (dialer : (number : Nat) → (address : String) → Except Fault γ)
    (operations : List Operation) :
    let start : PoolSchedule γ := { pool := { ttl }, dialer }
    let after := start.performAll operations
    let gauge := (Metrics.totals after.events).get? Metrics.poolGauge.text
    (.records ∉ start.marks operations → gauge = none) ∧
    ∀ early late, start.marks operations = early ++ .records :: late → .records ∉ late →
      gauge = some (after.pool.size + late.count .loses) ∧
      (gauge = some after.pool.size ↔ .loses ∉ late) := by
  intro start after gauge
  have shows : gauge = (lag (start.marks operations)).map (after.pool.size + ·) := by
    refine (Metrics.totals_poolGauge after.events).trans ?_
    exact ((Shows.start ttl dialer).run operations).gauge
  constructor
  · intro unrecorded
    rw [shows, lag_eq_none unrecorded]
    rfl
  · intro early late parts unrecorded
    have counts : gauge = some (after.pool.size + late.count .loses) := by
      rw [shows, parts, lag_eq_some early unrecorded]
      rfl
    refine ⟨counts, ?_⟩
    rw [counts, Option.some.injEq, Nat.add_eq_left, List.count_eq_zero]

/-- A channel over which a call has failed, and a backend that is gone by then: the gauge shows a
channel, and there is none. -/
theorem gauge_untrue :
    ¬ ∀ (dialer : (number : Nat) → (address : String) → Except Fault Unit)
      (operations : List Operation) (recorded : Nat),
      let after := performAll { pool := { ttl := 300000 }, dialer } operations
      (Metrics.totals after.events).get? Metrics.poolGauge.text = some recorded →
        recorded = after.pool.size := by
  intro always
  have wrong := always
    (fun number address =>
      if number = 1 then .ok () else .error (.connection address "connection refused"))
    [.acquire "10.0.0.5" "7001" 0, .markFailing 0, .acquire "10.0.0.5" "7001" 0] 1
    (by decide +kernel)
  exact absurd wrong (by decide +kernel)

end PoolSchedule

end Gatehouse
