import Gatehouse.Proofs.Pool.Callers

/-!
What callers notice of evictions, which is nothing.

A channel that has expired is of no use to anybody, whether it is still in the pool or not: whoever
looks for it dials, and the dial puts another channel in its place. So two pools serve alike at a
moment if they hold the same channels apart from those that have expired by then, and these are in
the same state. `Serves` is that relation. An eviction on one side does not leave it, and whatever
else happens on both sides does not either, so that two runs which differ in nothing but evictions
come to the same for all who ask for channels.
-/

namespace Gatehouse

namespace Pool

variable {γ : Type} {pool a b : Pool γ} {now : Nat}

/-! ## Dropping channels -/

/-- Apart from what has expired, a pool is left with what it held for all addresses but some. -/
structure Drops (now : Nat) (gone : String → Prop) (before after : Pool γ) : Prop where
  ttl : after.ttl = before.ttl
  length : after.channels.length = before.channels.length
  held : ∀ {address : String} {entry : Entry}, now < entry.expiry →
    (after.entries.get? address = some entry ↔
      before.entries.get? address = some entry ∧ ¬ gone address)
  same : ∀ {address : String} {entry : Entry}, now < entry.expiry →
    after.entries.get? address = some entry →
    after.channels[entry.channel]? = before.channels[entry.channel]?

theorem ttl_closeEach (pool : Pool γ) (numbers : List Nat) :
    (pool.closeEach numbers).ttl = pool.ttl := by
  induction numbers generalizing pool with
  | nil => rfl
  | cons first rest ih => exact ih (pool.close first)

theorem closedIn_of_notMem {numbers : List Nat} {number : Nat} (spared : number ∉ numbers)
    (channel : Channel γ) : closedIn numbers number channel = channel :=
  if_neg spared

/-- Closing some channels, and dropping the entries that hold them. -/
theorem Drops.drop {gone : String → Prop} {numbers : List Nat} {entries : Dict Entry}
    (held : ∀ {address : String} {entry : Entry}, now < entry.expiry →
      (entries.get? address = some entry ↔
        pool.entries.get? address = some entry ∧ ¬ gone address))
    (spared : ∀ {address : String} {entry : Entry}, now < entry.expiry →
      entries.get? address = some entry → entry.channel ∉ numbers) :
    Drops now gone pool { pool.closeEach numbers with entries } where
  ttl := ttl_closeEach pool numbers
  length := length_closeEach numbers
  held := held
  same {_ entry} fresh found := by
    have unchanged : closedIn (γ := γ) numbers entry.channel = id :=
      funext (closedIn_of_notMem (spared fresh found))
    change (pool.closeEach numbers).channels[entry.channel]? = _
    rw [channels_closeEach, unchanged, Option.map_id, id_eq]

/-- What only drops entries that have expired drops nothing. -/
theorem Drops.refl (now : Nat) (pool : Pool γ) : Drops now (fun _ => False) pool pool where
  ttl := rfl
  length := rfl
  held _ := (and_iff_left not_false).symm
  same _ _ := rfl

theorem Drops.trans {middle after : Pool γ} (early : Drops now (fun _ => False) pool middle)
    (late : Drops now (fun _ => False) middle after) :
    Drops now (fun _ => False) pool after where
  ttl := late.ttl.trans early.ttl
  length := late.length.trans early.length
  held fresh := by rw [late.held fresh, early.held fresh, and_assoc, and_self]
  same fresh found :=
    (late.same fresh found).trans (early.same fresh ((late.held fresh).mp found).1)

theorem Drops.evict (kept : pool.Kept) {moment : Nat} (past : moment ≤ now) :
    Drops now (fun _ => False) pool (pool.evict moment) := by
  have stays {entry : Entry} (fresh : now < entry.expiry) : entry.isExpired moment = false :=
    decide_eq_false (Nat.not_le.mpr (Nat.lt_of_le_of_lt past fresh))
  refine Drops.drop ?_ ?_
  · intro address entry fresh
    rw [Dict.get?_filter_eq_some_iff, stays fresh]
    exact and_congr_right fun _ => iff_of_true rfl not_false
  · intro address entry fresh found listed
    obtain ⟨⟨other, expired⟩, there, same⟩ := List.mem_map.mp listed
    obtain ⟨heldOther, isExpired⟩ := List.mem_filter.mp there
    have held := (Dict.get?_filter_eq_some_iff.mp found).1
    have heldHere := Dict.mem_entries_iff.mp heldOther
    rw [kept.address_inj heldHere held same, held] at heldHere
    cases heldHere
    rw [stays fresh] at isExpired
    cases isExpired

theorem Drops.evictEach (kept : pool.Kept) {moments : List Nat}
    (past : ∀ moment ∈ moments, moment ≤ now) :
    Drops now (fun _ => False) pool (moments.foldl Pool.evict pool) := by
  induction moments generalizing pool with
  | nil => exact Drops.refl now pool
  | cons moment rest ih =>
    refine (Drops.evict kept (past moment List.mem_cons_self)).trans ?_
    exact ih (kept.evict moment) fun other member => past other (List.mem_cons_of_mem _ member)

theorem Drops.closeAll (now : Nat) (pool : Pool γ) :
    Drops now (fun _ => True) pool pool.closeAll :=
  Drops.drop (fun _ => ⟨nofun, fun wrong => absurd trivial wrong.2⟩) nofun

/-- An acquisition that has to dial leaves nothing for its address. -/
theorem Drops.nothing {address : String} (nothing : pool.find address now = .nothing) :
    Drops now (· = address) pool pool := by
  change Drops now _ pool { pool.closeEach [] with entries := pool.entries }
  refine Drops.drop ?_ fun _ _ => List.not_mem_nil
  intro other entry fresh
  refine (and_iff_left_of_imp ?_).symm
  rintro held rfl
  rw [find_eq_nothing nothing] at held
  cases held

theorem Drops.discard (kept : pool.Kept) {address : String} {number : Nat}
    (unfit : pool.find address now = .unfit number) :
    Drops now (· = address) pool (pool.discard address number) := by
  have holds := find_eq_unfit unfit
  obtain ⟨current, held, rfl⟩ := holds_iff.mp holds
  rw [Pool.discard, if_pos holds]
  change Drops now _ pool
    { pool.closeEach [current.channel] with entries := pool.entries.erase address }
  refine Drops.drop ?_ ?_
  · intro other entry fresh
    exact Dict.get?_erase_eq_some_iff
  · intro other entry fresh remains listed
    obtain ⟨heldOther, different⟩ := Dict.get?_erase_eq_some_iff.mp remains
    exact different (kept.address_inj heldOther held (List.mem_singleton.mp listed))

/-! ## Pools that serve alike -/

/-- Two pools hold the same channels, in the same states, apart from what has expired. -/
structure Serves (now : Nat) (a b : Pool γ) : Prop where
  ttl : a.ttl = b.ttl
  length : a.channels.length = b.channels.length
  held : ∀ {address : String} {entry : Entry}, now < entry.expiry →
    (a.entries.get? address = some entry ↔ b.entries.get? address = some entry)
  same : ∀ {address : String} {entry : Entry}, now < entry.expiry →
    a.entries.get? address = some entry →
    a.channels[entry.channel]? = b.channels[entry.channel]?

theorem Serves.refl (now : Nat) (pool : Pool γ) : Serves now pool pool where
  ttl := rfl
  length := rfl
  held _ := Iff.rfl
  same _ _ := rfl

/-- More has expired later. -/
theorem Serves.later (serves : Serves now a b) {moment : Nat} (after : now ≤ moment) :
    Serves moment a b where
  ttl := serves.ttl
  length := serves.length
  held fresh := serves.held (Nat.lt_of_le_of_lt after fresh)
  same fresh := serves.same (Nat.lt_of_le_of_lt after fresh)

/-- Dropping what is held for the same addresses on both sides. -/
theorem Serves.drop (serves : Serves now a b) {gone : String → Prop} {a' b' : Pool γ}
    (left : Drops now gone a a') (right : Drops now gone b b') : Serves now a' b' where
  ttl := by rw [left.ttl, serves.ttl, right.ttl]
  length := by rw [left.length, serves.length, right.length]
  held fresh := by rw [left.held fresh, serves.held fresh, right.held fresh]
  same fresh found := by
    obtain ⟨held, remains⟩ := (left.held fresh).mp found
    have foundToo := (right.held fresh).mpr ⟨(serves.held fresh).mp held, remains⟩
    rw [left.same fresh found, serves.same fresh held, right.same fresh foundToo]

theorem Serves.find_fit (serves : Serves now a b) (address : String) (number : Nat) :
    a.find address now = .fit number ↔ b.find address now = .fit number := by
  rw [find_eq_fit_iff, find_eq_fit_iff]
  constructor
  · rintro ⟨entry, held, rfl, fresh, ready⟩
    rw [state?, serves.same fresh held] at ready
    exact ⟨entry, (serves.held fresh).mp held, rfl, fresh, ready⟩
  · rintro ⟨entry, held, rfl, fresh, ready⟩
    have heldToo := (serves.held fresh).mpr held
    rw [state?, ← serves.same fresh heldToo] at ready
    exact ⟨entry, heldToo, rfl, fresh, ready⟩

/-- An acquisition that finds nothing fit for use has to dial, and nothing is left for its
address. -/
theorem Kept.beginAcquire_unfit (kept : pool.Kept) {host port : String}
    (named : ¬ (host = "" ∨ port = ""))
    (unfit : ∀ number, pool.find (addressOf host port) now ≠ .fit number) :
    ∃ after, pool.beginAcquire host port now = (.dialing (addressOf host port), after) ∧
      Drops now (· = addressOf host port) pool after := by
  rw [beginAcquire_named named]
  cases found : pool.find (addressOf host port) now with
  | fit number => exact absurd found (unfit number)
  | nothing => exact ⟨pool, rfl, Drops.nothing found⟩
  | unfit number => exact ⟨_, rfl, Drops.discard kept found⟩

/-- An acquisition begins alike in both pools. If it gets a channel, it is the same one. -/
theorem Serves.beginAcquire (serves : Serves now a b) (keptA : a.Kept) (keptB : b.Kept)
    (host port : String) :
    ∃ acquisition a' b', a.beginAcquire host port now = (acquisition, a') ∧
      b.beginAcquire host port now = (acquisition, b') ∧ Serves now a' b' ∧
      ∀ number, acquisition = .reused number →
        a'.channels[number]? = b'.channels[number]? := by
  by_cases nameless : host = "" ∨ port = ""
  · exact ⟨_, a, b, refused_of_nameless nameless a now, refused_of_nameless nameless b now,
      serves, nofun⟩
  · by_cases fit : ∃ number, a.find (addressOf host port) now = .fit number
    · obtain ⟨number, found⟩ := fit
      have foundToo := (serves.find_fit _ number).mp found
      obtain ⟨entry, held, rfl, fresh, -⟩ := find_eq_fit_iff.mp found
      refine ⟨.reused entry.channel, a, b, ?_, ?_, serves, ?_⟩
      · rw [beginAcquire_named nameless, found]
      · rw [beginAcquire_named nameless, foundToo]
      · intro number same
        cases same
        exact serves.same fresh held
    · have unfit := not_exists.mp fit
      obtain ⟨a', begins, drops⟩ := keptA.beginAcquire_unfit nameless unfit
      obtain ⟨b', beginsToo, dropsToo⟩ := keptB.beginAcquire_unfit nameless fun number found =>
        unfit number ((serves.find_fit _ number).mpr found)
      exact ⟨_, a', b', begins, beginsToo, serves.drop drops dropsToo, nofun⟩

/-! ## Channels that change or come in -/

theorem ttl_markFailing (pool : Pool γ) (number : Nat) :
    (pool.markFailing number).ttl = pool.ttl := by
  unfold markFailing
  split <;> rfl

theorem length_markFailing (pool : Pool γ) (number : Nat) :
    (pool.markFailing number).channels.length = pool.channels.length := by
  unfold markFailing
  split
  · exact List.length_modify _ _ _
  · rfl

theorem Serves.markFailing (serves : Serves now a b) (number : Nat) :
    Serves now (a.markFailing number) (b.markFailing number) where
  ttl := by rw [ttl_markFailing, ttl_markFailing, serves.ttl]
  length := by rw [length_markFailing, length_markFailing, serves.length]
  held fresh := by rw [entries_markFailing, entries_markFailing, serves.held fresh]
  same fresh found := by
    rw [entries_markFailing] at found
    rw [channels_markFailing, channels_markFailing, serves.same fresh found]

theorem Serves.observe (serves : Serves now a b) (number : Nat) (code : RpcCode) :
    Serves now (a.observe number code) (b.observe number code) := by
  unfold Pool.observe
  split
  · exact serves.markFailing number
  · exact serves

theorem ttl_insert (pool : Pool γ) (address : String) (line : γ) (now : Nat) :
    (pool.insert address line now).2.ttl = pool.ttl := by
  unfold insert closeCurrent
  cases pool.entries.get? address <;> rfl

theorem length_insert (pool : Pool γ) (address : String) (line : γ) (now : Nat) :
    (pool.insert address line now).2.channels.length = pool.channels.length + 1 := by
  unfold insert
  dsimp only
  rw [closeCurrent_eq, List.length_append, length_closeEach, List.length_singleton]

/-- What is held for another address is not touched when a channel comes in. -/
theorem Kept.channels_insert (kept : pool.Kept) {address other : String} {entry : Entry}
    (held : pool.entries.get? other = some entry) (different : other ≠ address) (line : γ)
    (now : Nat) :
    (pool.insert address line now).2.channels[entry.channel]? = pool.channels[entry.channel]? := by
  obtain ⟨channel, present, -⟩ := kept.held held
  have spared : entry.channel ∉ pool.current address := by
    intro listed
    obtain ⟨current, there, same⟩ := mem_current.mp listed
    exact different (kept.address_inj held there same.symm)
  rw [present]
  exact present_insert.mpr (Or.inl ⟨channel, present, closedIn_of_notMem spared channel⟩)

/-- A channel comes in on both sides, in place of what is held for its address. -/
theorem Serves.insert (serves : Serves now a b) (keptA : a.Kept) (keptB : b.Kept)
    (address : String) (line : γ) :
    Serves now (a.insert address line now).2 (b.insert address line now).2 where
  ttl := by rw [ttl_insert, ttl_insert, serves.ttl]
  length := by rw [length_insert, length_insert, serves.length]
  held fresh := by
    rw [entries_insert, entries_insert, Dict.get?_insert_eq_some_iff,
      Dict.get?_insert_eq_some_iff, serves.held fresh, serves.length, serves.ttl]
  same {other entry} fresh found := by
    rw [entries_insert, Dict.get?_insert_eq_some_iff] at found
    rcases found with ⟨rfl, rfl⟩ | ⟨different, held⟩
    · dsimp only
      rw [present_insert.mpr (Or.inr ⟨rfl, rfl⟩), present_insert.mpr (Or.inr ⟨serves.length, rfl⟩)]
    · rw [keptA.channels_insert held different, serves.same fresh held,
        keptB.channels_insert ((serves.held fresh).mp held) different]

end Pool

namespace PoolSchedule

open Pool

variable {γ : Type}

/-- Whoever has dialed gets the channel that has come in, which is ready. -/
theorem ofResult_insert (pool : Pool γ) (address : String) (line : γ) (now : Nat) :
    Report.ofResult (pool.insert address line now).2 (.ok (pool.insert address line now).1) =
      .gets pool.channels.length (some ⟨address, line, .ready⟩) :=
  congrArg (Report.gets _) (present_insert.mpr (Or.inr ⟨rfl, rfl⟩))

namespace Callers

/-! ## Runs with and without evictions -/

/-- Two runs are alike to all callers, now and from now on. -/
structure Alike (a b : Callers γ) : Prop where
  now : a.schedule.now = b.schedule.now
  dialer : a.schedule.dialer = b.schedule.dialer
  dials : a.schedule.dials = b.schedule.dials
  dialing : a.dialing = b.dialing
  reports : a.reports = b.reports
  serves : Serves a.schedule.now a.schedule.pool b.schedule.pool
  keptLeft : a.schedule.pool.Kept
  keptRight : b.schedule.pool.Kept

theorem Alike.start (ttl : Nat) (dialer : (number : Nat) → (address : String) → Except Fault γ)
    (evictor : Option Ticker) : Alike (start ttl dialer evictor) (start ttl dialer none) where
  now := rfl
  dialer := rfl
  dials := rfl
  dialing := rfl
  reports := rfl
  serves := Serves.refl 0 _
  keptLeft := Kept.empty ttl
  keptRight := Kept.empty ttl

theorem Alike.acquire {a b : Callers γ} (alike : Alike a b) (host port : String) :
    Alike (a.acquire host port) (b.acquire host port) := by
  obtain ⟨⟨now, poolA, dialer, dials, _, _⟩, dialing, reports⟩ := a
  obtain ⟨⟨_, poolB, _, _, _, _⟩, _, _⟩ := b
  obtain ⟨rfl, rfl, rfl, rfl, rfl, serves, keptA, keptB⟩ := alike
  have keptA' := keptA.beginAcquire host port now
  have keptB' := keptB.beginAcquire host port now
  obtain ⟨acquisition, a', b', begins, beginsToo, serves', sameChannel⟩ :=
    serves.beginAcquire keptA keptB host port
  unfold Callers.acquire
  rw [begins] at keptA' ⊢
  rw [beginsToo] at keptB' ⊢
  cases acquisition with
  | refused fault => exact ⟨rfl, rfl, rfl, rfl, rfl, serves', keptA', keptB'⟩
  | reused number =>
    refine ⟨rfl, rfl, rfl, rfl, ?_, serves', keptA', keptB'⟩
    simp only [Report.ofResult, sameChannel number rfl]
  | dialing address => exact ⟨rfl, rfl, rfl, rfl, rfl, serves', keptA', keptB'⟩

theorem Alike.finish {a b : Callers γ} (alike : Alike a b) (place : Nat) :
    Alike (a.finish place) (b.finish place) := by
  obtain ⟨⟨now, poolA, dialer, dials, _, _⟩, dialing, reports⟩ := a
  obtain ⟨⟨_, poolB, _, _, _, _⟩, _, _⟩ := b
  obtain ⟨rfl, rfl, rfl, rfl, rfl, serves, keptA, keptB⟩ := alike
  unfold Callers.finish
  dsimp only
  cases waits : dialing[place]? with
  | none => exact ⟨rfl, rfl, rfl, rfl, rfl, serves, keptA, keptB⟩
  | some dial =>
    rcases dial with _ | ⟨address, fault | line⟩
    · exact ⟨rfl, rfl, rfl, rfl, rfl, serves, keptA, keptB⟩
    · exact ⟨rfl, rfl, rfl, rfl, rfl, serves, keptA, keptB⟩
    · refine ⟨rfl, rfl, rfl, rfl, ?_, serves.insert keptA keptB address line,
        keptA.insert address line now, keptB.insert address line now⟩
      have sameReport := ofResult_insert poolA address line now
      rw [serves.length, ← ofResult_insert poolB address line now] at sameReport
      exact congrArg (fun report => reports ++ [(place, report)]) sameReport

theorem Alike.sleep {a b : Callers γ} (alike : Alike a b) (length : Nat) :
    Alike (a.step (.sleep length)) (b.step (.sleep length)) := by
  obtain ⟨now, dialer, dials, dialing, reports, serves, keptA, keptB⟩ := alike
  simp only [step, sleep_eq, evictEach_eq]
  refine ⟨congrArg (· + length) now, dialer, dials, dialing, reports, ?_,
    keptA.evictEach _, keptB.evictEach _⟩
  dsimp only
  refine (serves.later (Nat.le_add_right _ length)).drop
    (Drops.evictEach keptA ?_) (Drops.evictEach keptB ?_)
  · intro moment member
    exact Nat.le_of_lt_succ (lt_of_mem_ticks member)
  · intro moment member
    rw [now]
    exact Nat.le_of_lt_succ (lt_of_mem_ticks member)

theorem Alike.evict {a b : Callers γ} (alike : Alike a b) : Alike (a.step .evict) b where
  now := alike.now
  dialer := alike.dialer
  dials := alike.dials
  dialing := alike.dialing
  reports := alike.reports
  serves := alike.serves.drop (Drops.evict alike.keptLeft (Nat.le_refl _)) (Drops.refl _ _)
  keptLeft := alike.keptLeft.evict _
  keptRight := alike.keptRight

/-- What happens on both sides, with evictions by the task wherever they are due. -/
theorem Alike.step {a b : Callers γ} (alike : Alike a b) {turn : Turn} (other : turn ≠ .evict) :
    Alike (a.step turn) (b.step turn) := by
  cases turn with
  | acquire host port => exact alike.acquire host port
  | finish place => exact alike.finish place
  | observe channel code =>
    exact { alike with
      serves := alike.serves.observe channel code
      keptLeft := alike.keptLeft.observe channel code
      keptRight := alike.keptRight.observe channel code }
  | markFailing channel =>
    exact { alike with
      serves := alike.serves.markFailing channel
      keptLeft := alike.keptLeft.markFailing channel
      keptRight := alike.keptRight.markFailing channel }
  | evict => exact absurd rfl other
  | closeAll =>
    exact { alike with
      serves := alike.serves.drop (Drops.closeAll _ _) (Drops.closeAll _ _)
      keptLeft := alike.keptLeft.closeAll
      keptRight := alike.keptRight.closeAll }
  | sleep length => exact alike.sleep length

theorem Alike.run {a b : Callers γ} (alike : Alike a b) (turns : List Turn) :
    Alike (a.run turns) (b.run (turns.filter (· ≠ .evict))) := by
  induction turns generalizing a b with
  | nil => exact alike
  | cons turn rest ih =>
    by_cases evicts : turn = .evict
    · rw [List.filter_cons_of_neg (by simp only [evicts, decide_not, decide_true, Bool.not_true,
        Bool.false_eq_true, not_false_eq_true]), evicts]
      exact ih alike.evict
    · rw [List.filter_cons_of_pos (by exact decide_eq_true evicts)]
      exact ih (alike.step evicts)

/-! ## What callers get -/

/-- A channel that is handed out is ready by then. -/
def Ready : Report γ → Prop
  | .gets _ channel => ∃ present, channel = some present ∧ present.state = .ready
  | _ => True

def Served (callers : Callers γ) : Prop :=
  ∀ report ∈ callers.reports, Ready report.2

theorem ready_concat {reports : List (Nat × Report γ)} (served : ∀ report ∈ reports, Ready report.2)
    {last : Nat × Report γ} (ready : Ready last.2) : ∀ report ∈ reports ++ [last], Ready report.2 :=
  List.forall_mem_append.mpr ⟨served, List.forall_mem_singleton.mpr ready⟩

theorem ready_of_reused {pool after : Pool γ} {host port : String} {now number : Nat}
    (begins : pool.beginAcquire host port now = (.reused number, after)) :
    Ready (Report.ofResult after (.ok number)) := by
  have reused : (pool.beginAcquire host port now).1.outcome? = some (.ok number) := by
    rw [begins]
    rfl
  obtain ⟨found, same⟩ := reused_of_outcome reused
  rw [begins] at same
  cases same
  obtain ⟨_, -, -, -, ready⟩ := find_eq_fit_iff.mp found
  exact Option.map_eq_some_iff.mp ready

theorem Served.start (ttl : Nat) (dialer : (number : Nat) → (address : String) → Except Fault γ)
    (evictor : Option Ticker) : (start ttl dialer evictor).Served :=
  fun _ member => absurd member List.not_mem_nil

theorem Served.acquire {callers : Callers γ} (served : callers.Served) (host port : String) :
    (callers.acquire host port).Served := by
  unfold Callers.acquire
  cases begins : callers.schedule.pool.beginAcquire host port callers.schedule.now with
  | mk acquisition after =>
    cases acquisition with
    | refused fault => exact ready_concat served trivial
    | reused number => exact ready_concat served (ready_of_reused begins)
    | dialing address => exact ready_concat served trivial

theorem Served.finish {callers : Callers γ} (served : callers.Served) (place : Nat) :
    (callers.finish place).Served := by
  unfold Callers.finish
  split
  · rename_i address dialed _
    cases dialed with
    | error fault => exact ready_concat served trivial
    | ok line =>
      refine ready_concat served ?_
      exact (ofResult_insert _ address line _).symm ▸ ⟨_, rfl, rfl⟩
  · exact served

theorem Served.step {callers : Callers γ} (served : callers.Served) (turn : Turn) :
    (callers.step turn).Served := by
  cases turn with
  | acquire host port => exact served.acquire host port
  | finish place => exact served.finish place
  | _ => exact served

theorem Served.run {callers : Callers γ} (served : callers.Served) (turns : List Turn) :
    (callers.run turns).Served := by
  induction turns generalizing callers with
  | nil => exact served
  | cons turn rest ih => exact ih (served.step turn)

end Callers

/-- Whatever many callers do with a pool that was empty, and whatever comes of their dials: if
channels that have expired are evicted at any moments in between, by the task or by anybody, then
every acquisition is told just what it is told without any eviction. It dials in both cases or in
none, and then the dial has the same number; it fails in the same way, or gets the same channel,
which is ready by then. -/
theorem eviction_unnoticed (ttl : Nat)
    (dialer : (number : Nat) → (address : String) → Except Fault γ) (evictor : Option Ticker)
    (turns : List Turn) :
    let reports := ((Callers.start ttl dialer evictor).run turns).reports
    reports = ((Callers.start ttl dialer none).run (turns.filter (· ≠ .evict))).reports ∧
    ∀ place number channel, (place, .gets number channel) ∈ reports →
      ∃ present, channel = some present ∧ present.state = .ready := by
  intro reports
  refine ⟨((Callers.Alike.start ttl dialer evictor).run turns).reports, ?_⟩
  intro place number channel there
  exact (Callers.Served.start ttl dialer evictor).run turns _ there

end PoolSchedule

end Gatehouse
