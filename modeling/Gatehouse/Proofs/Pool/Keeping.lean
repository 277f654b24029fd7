import Gatehouse.Pool.Basic
import Gatehouse.Proofs.Dict

/-!
What a pool keeps.

`Kept` is the agreement between the two halves of a pool: what it holds for an address is an open
channel to that address, and a channel is open only as long as it is held. All ways of clearing a
pool close some channels and drop the entries that hold them, so that `Kept.drop` serves for each of
them. `Outlives` is what no operation undoes: a channel keeps its number and its address, and stays
closed once it is closed.
-/

namespace Gatehouse

namespace Pool

variable {γ : Type} {pool : Pool γ}

/-- The entries and the channels of a pool agree. -/
structure Kept (pool : Pool γ) : Prop where
  /-- What is held for an address is an open channel to it. -/
  held : ∀ {address : String} {entry : Entry}, pool.entries.get? address = some entry →
    ∃ channel, pool.channels[entry.channel]? = some channel ∧ channel.address = address ∧
      channel.state ≠ .closed
  /-- An open channel is held for its address. -/
  pooled : ∀ {number : Nat} {channel : Channel γ}, pool.channels[number]? = some channel →
    channel.state ≠ .closed →
    ∃ entry, pool.entries.get? channel.address = some entry ∧ entry.channel = number

/-- Every channel of a pool is still there later, with the same address, and still closed if it was
closed. -/
def Outlives (after before : Pool γ) : Prop :=
  ∀ (number : Nat) (channel : Channel γ), before.channels[number]? = some channel →
    ∃ later, after.channels[number]? = some later ∧ later.address = channel.address ∧
      (channel.state = .closed → later.state = .closed)

theorem Outlives.refl (pool : Pool γ) : pool.Outlives pool :=
  fun _ channel present => ⟨channel, present, rfl, id⟩

theorem Outlives.trans {last middle first : Pool γ} (late : last.Outlives middle)
    (early : middle.Outlives first) : last.Outlives first := by
  intro number channel present
  obtain ⟨between, presentBetween, sameAddress, staysClosed⟩ := early number channel present
  obtain ⟨later, presentLater, stillSame, stillClosed⟩ := late number between presentBetween
  exact ⟨later, presentLater, stillSame.trans sameAddress, fun c => stillClosed (staysClosed c)⟩

/-! ## Channels and addresses -/

/-- Two addresses do not share a channel. -/
theorem Kept.address_inj (kept : pool.Kept) {a b : String} {entryA entryB : Entry}
    (heldA : pool.entries.get? a = some entryA) (heldB : pool.entries.get? b = some entryB)
    (same : entryA.channel = entryB.channel) : a = b := by
  obtain ⟨channelA, presentA, addressA, -⟩ := kept.held heldA
  obtain ⟨channelB, presentB, addressB, -⟩ := kept.held heldB
  rw [same, presentB] at presentA
  cases presentA
  exact addressA.symm.trans addressB

/-- A channel is closed exactly if it is not held for its address. -/
theorem Kept.closed_iff (kept : pool.Kept) {number : Nat} {channel : Channel γ}
    (present : pool.channels[number]? = some channel) :
    channel.state = .closed ↔
      ¬ ∃ entry, pool.entries.get? channel.address = some entry ∧ entry.channel = number := by
  constructor
  · rintro closed ⟨entry, held, rfl⟩
    obtain ⟨same, presentSame, -, isOpen⟩ := kept.held held
    rw [present] at presentSame
    cases presentSame
    exact isOpen closed
  · intro unheld
    cases state : channel.state with
    | closed => rfl
    | ready => exact absurd (kept.pooled present (by simp only [state, ne_eq, reduceCtorEq,
        not_false_eq_true])) unheld
    | failing => exact absurd (kept.pooled present (by simp only [state, ne_eq, reduceCtorEq,
        not_false_eq_true])) unheld

theorem holds_iff {address : String} {number : Nat} :
    pool.holds address number = true ↔
      ∃ entry, pool.entries.get? address = some entry ∧ entry.channel = number := by
  simp only [holds, Option.any_eq_true, beq_iff_eq]

/-! ## Changing states -/

theorem channels_setState (number : Nat) (state : ChannelState) (other : Nat) :
    (pool.setState number state).channels[other]? =
      pool.channels[other]?.map fun c => if number = other then { c with state } else c := by
  simp only [setState, List.getElem?_modify]
  rfl

/-- A channel after some channels have been closed. -/
def closedIn (numbers : List Nat) (number : Nat) (channel : Channel γ) : Channel γ :=
  if number ∈ numbers then { channel with state := .closed } else channel

theorem channels_closeEach (numbers : List Nat) (number : Nat) :
    (pool.closeEach numbers).channels[number]? =
      pool.channels[number]?.map (closedIn numbers number) := by
  induction numbers generalizing pool with
  | nil =>
    have unchanged : closedIn (γ := γ) [] number = id := by
      funext channel
      simp only [closedIn, List.not_mem_nil, if_false, id_eq]
    rw [unchanged, Option.map_id]
    rfl
  | cons first rest ih =>
    change ((pool.close first).closeEach rest).channels[number]? = _
    rw [ih, close, channels_setState, Option.map_map]
    congr 1
    funext channel
    simp only [Function.comp_apply, closedIn, List.mem_cons]
    by_cases here : first = number
    · simp only [here, if_true, true_or]
      split <;> rfl
    · have elsewhere : ¬ number = first := fun same => here same.symm
      simp only [here, if_false, elsewhere, false_or]

theorem length_closeEach (numbers : List Nat) :
    (pool.closeEach numbers).channels.length = pool.channels.length := by
  induction numbers generalizing pool with
  | nil => rfl
  | cons first rest ih =>
    change ((pool.close first).closeEach rest).channels.length = _
    rw [ih, close, setState, List.length_modify]

theorem address_closedIn (numbers : List Nat) (number : Nat) (channel : Channel γ) :
    (closedIn numbers number channel).address = channel.address := by
  unfold closedIn
  split <;> rfl

theorem state_closedIn {numbers : List Nat} {number : Nat} {channel : Channel γ} :
    (closedIn numbers number channel).state ≠ .closed ↔
      number ∉ numbers ∧ channel.state ≠ .closed := by
  unfold closedIn
  split
  · rename_i member
    simp only [ne_eq, not_true_eq_false, member, false_and]
  · rename_i absent
    simp only [ne_eq, absent, not_false_eq_true, true_and]

theorem present_closeEach {numbers : List Nat} {number : Nat} {channel : Channel γ} :
    (pool.closeEach numbers).channels[number]? = some channel ↔
      ∃ before, pool.channels[number]? = some before ∧
        closedIn numbers number before = channel := by
  rw [channels_closeEach, Option.map_eq_some_iff]

/-- A channel after a call over one of them has failed. -/
def failedIn (number other : Nat) (channel : Channel γ) : Channel γ :=
  if number = other ∧ channel.state = .ready then { channel with state := .failing } else channel

theorem channels_markFailing (number other : Nat) :
    (pool.markFailing number).channels[other]? =
      pool.channels[other]?.map (failedIn number other) := by
  unfold markFailing
  by_cases here : number = other
  · subst here
    cases present : pool.channels[number]? with
    | none =>
      simp only [isReady, state?, present, Option.map_none, reduceCtorEq, beq_iff_eq, if_false]
    | some channel =>
      simp only [isReady, state?, present, Option.map_some, beq_iff_eq, Option.some.injEq,
        failedIn, true_and]
      split
      · rw [channels_setState, present, Option.map_some, if_pos rfl]
      · exact present
  · have unchanged : failedIn (γ := γ) number other = id := by
      funext channel
      simp only [failedIn, here, false_and, if_false, id_eq]
    rw [unchanged, Option.map_id]
    split
    · rw [channels_setState]
      simp only [here, if_false, Option.map_id', id_eq]
    · rfl

theorem address_failedIn (number other : Nat) (channel : Channel γ) :
    (failedIn number other channel).address = channel.address := by
  unfold failedIn
  split <;> rfl

theorem state_failedIn {number other : Nat} {channel : Channel γ} :
    (failedIn number other channel).state = .closed ↔ channel.state = .closed := by
  unfold failedIn
  split
  · rename_i failed
    simp only [failed.2, reduceCtorEq]
  · exact Iff.rfl

/-- The channel that a pool holds for an address, if it does. -/
def current (pool : Pool γ) (address : String) : List Nat :=
  ((pool.entries.get? address).map Entry.channel).toList

theorem mem_current {address : String} {number : Nat} :
    number ∈ pool.current address ↔
      ∃ entry, pool.entries.get? address = some entry ∧ entry.channel = number := by
  simp only [current, Option.mem_toList, Option.map_eq_some_iff]

theorem closeCurrent_eq (pool : Pool γ) (address : String) :
    pool.closeCurrent address = pool.closeEach (pool.current address) := by
  unfold closeCurrent current
  cases pool.entries.get? address <;> rfl

theorem present_insert {address : String} {line : γ} {now number : Nat} {channel : Channel γ} :
    (pool.insert address line now).2.channels[number]? = some channel ↔
      (∃ before, pool.channels[number]? = some before ∧
        closedIn (pool.current address) number before = channel) ∨
      number = pool.channels.length ∧ channel = ⟨address, line, .ready⟩ := by
  rw [← present_closeEach]
  simp only [insert, closeCurrent_eq]
  rw [List.getElem?_append, length_closeEach]
  split
  · rename_i old
    have notNew : number ≠ pool.channels.length := Nat.ne_of_lt old
    simp only [notNew, false_and, or_false]
  · rename_i beyond
    have absent : (pool.closeEach (pool.current address)).channels[number]? = none := by
      rw [List.getElem?_eq_none_iff, length_closeEach]
      exact Nat.le_of_not_lt beyond
    rw [absent]
    simp only [reduceCtorEq, false_or, List.getElem?_singleton, Nat.sub_eq_zero_iff_le,
      Option.ite_none_right_eq_some, Option.some.injEq]
    constructor
    · rintro ⟨below, rfl⟩
      exact ⟨Nat.le_antisymm below (Nat.le_of_not_lt beyond), rfl⟩
    · rintro ⟨rfl, rfl⟩
      exact ⟨Nat.le_refl _, rfl⟩

/-! ## What nothing undoes -/

theorem Outlives.closeEach (pool : Pool γ) (numbers : List Nat) :
    (pool.closeEach numbers).Outlives pool := by
  intro number channel present
  refine ⟨closedIn numbers number channel, present_closeEach.mpr ⟨channel, present, rfl⟩,
    address_closedIn numbers number channel, ?_⟩
  intro closed
  unfold closedIn
  split
  · rfl
  · exact closed

theorem Outlives.markFailing (pool : Pool γ) (number : Nat) :
    (pool.markFailing number).Outlives pool := by
  intro other channel present
  refine ⟨failedIn number other channel, ?_, address_failedIn number other channel,
    state_failedIn.mpr⟩
  rw [channels_markFailing, present, Option.map_some]

theorem Outlives.discard (pool : Pool γ) (address : String) (number : Nat) :
    (pool.discard address number).Outlives pool := by
  unfold Pool.discard
  split
  · exact Outlives.closeEach pool [number]
  · exact Outlives.refl pool

theorem Outlives.insert (pool : Pool γ) (address : String) (line : γ) (now : Nat) :
    (pool.insert address line now).2.Outlives pool := by
  intro number channel present
  obtain ⟨later, presentLater, sameAddress, staysClosed⟩ :=
    Outlives.closeEach pool (pool.current address) number channel present
  exact ⟨later, present_insert.mpr (Or.inl (present_closeEach.mp presentLater)), sameAddress,
    staysClosed⟩

theorem Outlives.evict (pool : Pool γ) (now : Nat) : (pool.evict now).Outlives pool :=
  Outlives.closeEach pool _

theorem Outlives.closeAll (pool : Pool γ) : pool.closeAll.Outlives pool :=
  Outlives.closeEach pool _

/-! ## What is kept -/

theorem Kept.empty (ttl : Nat) : Kept (γ := γ) { ttl } where
  held found := nomatch found
  pooled present := nomatch present

theorem Kept.markFailing (kept : pool.Kept) (number : Nat) : (pool.markFailing number).Kept := by
  have sameEntries : (pool.markFailing number).entries = pool.entries := by
    unfold Pool.markFailing
    split <;> rfl
  constructor
  · intro address entry found
    rw [sameEntries] at found
    obtain ⟨channel, present, leads, isOpen⟩ := kept.held found
    refine ⟨failedIn number entry.channel channel, ?_, ?_, fun c => isOpen (state_failedIn.mp c)⟩
    · rw [channels_markFailing, present, Option.map_some]
    · rw [address_failedIn, leads]
  · intro other channel present isOpen
    rw [channels_markFailing, Option.map_eq_some_iff] at present
    obtain ⟨before, presentBefore, rfl⟩ := present
    rw [sameEntries, address_failedIn]
    exact kept.pooled presentBefore fun c => isOpen (state_failedIn.mpr c)

/-- Closing some channels and dropping just the entries that hold them. -/
theorem Kept.drop (kept : pool.Kept) (numbers : List Nat) (entries : Dict Entry)
    (remaining : ∀ {address : String} {entry : Entry}, entries.get? address = some entry ↔
      pool.entries.get? address = some entry ∧ entry.channel ∉ numbers) :
    Kept { pool.closeEach numbers with entries } := by
  constructor
  · intro address entry found
    obtain ⟨before, unlisted⟩ := remaining.mp found
    obtain ⟨channel, present, leads, isOpen⟩ := kept.held before
    refine ⟨closedIn numbers entry.channel channel, present_closeEach.mpr ⟨channel, present, rfl⟩,
      ?_, state_closedIn.mpr ⟨unlisted, isOpen⟩⟩
    rw [address_closedIn, leads]
  · intro number channel present isOpen
    obtain ⟨before, presentBefore, rfl⟩ := present_closeEach.mp present
    obtain ⟨unlisted, wasOpen⟩ := state_closedIn.mp isOpen
    obtain ⟨entry, found, rfl⟩ := kept.pooled presentBefore wasOpen
    rw [address_closedIn]
    exact ⟨entry, remaining.mpr ⟨found, unlisted⟩, rfl⟩

theorem Kept.discard (kept : pool.Kept) (address : String) (number : Nat) :
    (pool.discard address number).Kept := by
  unfold Pool.discard
  split
  · rename_i holds
    obtain ⟨current, found, rfl⟩ := holds_iff.mp holds
    refine kept.drop [current.channel] (pool.entries.erase address) ?_
    intro other entry
    rw [Dict.get?_erase_eq_some_iff, List.mem_singleton]
    refine and_congr_right fun foundOther => not_congr ?_
    constructor
    · rintro rfl
      rw [found] at foundOther
      cases foundOther
      rfl
    · exact kept.address_inj foundOther found
  · exact kept

theorem Kept.evict (kept : pool.Kept) (now : Nat) : (pool.evict now).Kept := by
  refine kept.drop _ (pool.entries.filter fun _ entry => ! entry.isExpired now) ?_
  intro address entry
  rw [Dict.get?_filter_eq_some_iff]
  refine and_congr_right fun found => ?_
  simp only [Bool.not_eq_true', List.mem_map, List.mem_filter, Prod.exists, not_exists, not_and,
    and_imp, Dict.mem_entries_iff]
  constructor
  · rintro fresh other expired foundOther isExpired same
    have here := kept.address_inj foundOther found same
    rw [here, found] at foundOther
    cases foundOther
    rw [fresh] at isExpired
    cases isExpired
  · intro unlisted
    cases expired : entry.isExpired now with
    | false => rfl
    | true => exact absurd rfl (unlisted address entry found expired)

theorem Kept.closeAll (kept : pool.Kept) : pool.closeAll.Kept := by
  refine kept.drop _ ∅ ?_
  intro address entry
  constructor
  · intro found
    rw [Dict.get?_empty] at found
    cases found
  · rintro ⟨found, unlisted⟩
    refine absurd ?_ unlisted
    exact List.mem_map.mpr ⟨(address, entry), Dict.mem_entries_iff.mpr found, rfl⟩

/-- A dialed channel takes the place of the one that is held for its address by then, which is
closed. -/
theorem Kept.insert (kept : pool.Kept) (address : String) (line : γ) (now : Nat) :
    (pool.insert address line now).2.Kept := by
  have newEntries : (pool.insert address line now).2.entries =
      pool.entries.insert address ⟨pool.channels.length, now + pool.ttl⟩ := by
    unfold Pool.insert closeCurrent
    cases pool.entries.get? address <;> rfl
  constructor
  · intro other entry found
    rw [newEntries, Dict.get?_insert_eq_some_iff] at found
    rcases found with ⟨rfl, rfl⟩ | ⟨different, found⟩
    · exact ⟨_, present_insert.mpr (Or.inr ⟨rfl, rfl⟩), rfl, nofun⟩
    · obtain ⟨channel, present, leads, isOpen⟩ := kept.held found
      have unlisted : entry.channel ∉ pool.current address := by
        intro listed
        obtain ⟨replaced, foundHere, same⟩ := mem_current.mp listed
        exact different (kept.address_inj found foundHere same.symm)
      refine ⟨_, present_insert.mpr (Or.inl ⟨channel, present, rfl⟩), ?_,
        state_closedIn.mpr ⟨unlisted, isOpen⟩⟩
      rw [address_closedIn, leads]
  · intro number channel present isOpen
    rw [newEntries]
    rcases present_insert.mp present with ⟨before, presentBefore, rfl⟩ | ⟨rfl, rfl⟩
    · obtain ⟨unlisted, wasOpen⟩ := state_closedIn.mp isOpen
      obtain ⟨entry, found, rfl⟩ := kept.pooled presentBefore wasOpen
      rw [address_closedIn]
      have different : before.address ≠ address := by
        intro here
        rw [here] at found
        exact unlisted (mem_current.mpr ⟨entry, found, rfl⟩)
      exact ⟨entry, Dict.get?_insert_eq_some_iff.mpr (Or.inr ⟨different, found⟩), rfl⟩
    · exact ⟨_, Dict.get?_insert_eq_some_iff.mpr (Or.inl ⟨rfl, rfl⟩), rfl⟩

end Pool

end Gatehouse
