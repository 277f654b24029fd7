import Gatehouse.Proofs.Pool.Interleaving

/-!
Where the channels of a pool come from, and how they are spent.

Only the end of a dial puts a channel into a pool. `Wanes` says of every other operation that it
leaves nothing that was not there before, and makes no channel ready again. So a channel can be
traced back to its dial, with its address and its line, whatever happened in between.

A channel is spent once it is not ready, or once every entry that holds it has expired. Time does
not run back, and an entry is never renewed, so a channel that is spent stays spent.
-/

namespace Gatehouse

namespace Pool

variable {γ : Type} {pool : Pool γ}

/-! ## What is left -/

/-- A pool has nothing that an earlier one did not have. Channels that are ready have been ready. -/
structure Wanes (after before : Pool γ) : Prop where
  channels : ∀ {number : Nat} {channel : Channel γ}, after.channels[number]? = some channel →
    ∃ old, before.channels[number]? = some old ∧ old.address = channel.address ∧
      old.line = channel.line ∧ (channel.state = .ready → old.state = .ready)
  entries : ∀ {address : String} {entry : Entry}, after.entries.get? address = some entry →
    before.entries.get? address = some entry

theorem Wanes.refl (pool : Pool γ) : pool.Wanes pool where
  channels present := ⟨_, present, rfl, rfl, id⟩
  entries := id

theorem line_closedIn (numbers : List Nat) (number : Nat) (channel : Channel γ) :
    (closedIn numbers number channel).line = channel.line := by
  unfold closedIn
  split <;> rfl

theorem ready_of_closedIn {numbers : List Nat} {number : Nat} {channel : Channel γ}
    (ready : (closedIn numbers number channel).state = .ready) : channel.state = .ready := by
  unfold closedIn at ready
  split at ready
  · cases ready
  · exact ready

theorem line_failedIn (number other : Nat) (channel : Channel γ) :
    (failedIn number other channel).line = channel.line := by
  unfold failedIn
  split <;> rfl

theorem ready_of_failedIn {number other : Nat} {channel : Channel γ}
    (ready : (failedIn number other channel).state = .ready) : channel.state = .ready := by
  unfold failedIn at ready
  split at ready
  · cases ready
  · exact ready

/-- Closing some channels, and dropping some entries. -/
theorem Wanes.drop (pool : Pool γ) (numbers : List Nat) {entries : Dict Entry}
    (fewer : ∀ {address : String} {entry : Entry}, entries.get? address = some entry →
      pool.entries.get? address = some entry) :
    Wanes { pool.closeEach numbers with entries } pool where
  channels present := by
    obtain ⟨old, presentOld, rfl⟩ := present_closeEach.mp present
    exact ⟨old, presentOld, (address_closedIn numbers _ old).symm,
      (line_closedIn numbers _ old).symm, ready_of_closedIn⟩
  entries := fewer

theorem entries_markFailing (pool : Pool γ) (number : Nat) :
    (pool.markFailing number).entries = pool.entries := by
  unfold markFailing
  split <;> rfl

theorem Wanes.markFailing (pool : Pool γ) (number : Nat) :
    (pool.markFailing number).Wanes pool where
  channels {other _} present := by
    rw [channels_markFailing, Option.map_eq_some_iff] at present
    obtain ⟨old, presentOld, rfl⟩ := present
    exact ⟨old, presentOld, (address_failedIn number other old).symm,
      (line_failedIn number other old).symm, ready_of_failedIn⟩
  entries found := by
    rw [entries_markFailing] at found
    exact found

theorem Wanes.discard (pool : Pool γ) (address : String) (number : Nat) :
    (pool.discard address number).Wanes pool := by
  unfold Pool.discard
  split
  · exact Wanes.drop pool [number] fun found => (Dict.get?_erase_eq_some_iff.mp found).1
  · exact Wanes.refl pool

theorem Wanes.evict (pool : Pool γ) (now : Nat) : (pool.evict now).Wanes pool :=
  Wanes.drop pool _ fun found => (Dict.get?_filter_eq_some_iff.mp found).1

theorem Wanes.closeAll (pool : Pool γ) : pool.closeAll.Wanes pool := by
  refine Wanes.drop pool _ ?_
  intro address entry found
  rw [Dict.get?_empty] at found
  cases found

theorem entries_insert (pool : Pool γ) (address : String) (line : γ) (now : Nat) :
    (pool.insert address line now).2.entries =
      pool.entries.insert address ⟨pool.channels.length, now + pool.ttl⟩ := by
  unfold Pool.insert closeCurrent
  cases pool.entries.get? address <;> rfl

namespace Crowd

/-- A turn ends a dial that has succeeded, or leaves nothing new. -/
theorem insert_or_wanes (crowd : Crowd γ) (turn : Turn γ) :
    (∃ place address line, turn = .dialed place (.ok line) ∧
      crowd.acquisitions[place]? = some (.dialing address) ∧
      (crowd.step turn).pool = (crowd.pool.insert address line crowd.now).2) ∨
    (crowd.step turn).pool.Wanes crowd.pool := by
  cases turn with
  | begin host port =>
    refine Or.inr ?_
    change (crowd.pool.beginAcquire host port crowd.now).2.Wanes crowd.pool
    rcases pool_beginAcquire crowd.pool host port crowd.now with same | ⟨address, channel, same⟩
    · rw [same]
      exact Wanes.refl _
    · rw [same]
      exact Wanes.discard _ _ _
  | look host port => exact Or.inr (Wanes.refl _)
  | discard place =>
    refine Or.inr ?_
    simp only [step]
    split
    · exact Wanes.discard _ _ _
    · exact Wanes.refl _
  | dialed place result =>
    simp only [step]
    split
    · rename_i address waits
      cases result with
      | error fault => exact Or.inr (Wanes.refl _)
      | ok line => exact Or.inl ⟨place, address, line, rfl, waits, rfl⟩
    · exact Or.inr (Wanes.refl _)
  | observe channel code =>
    refine Or.inr ?_
    change (crowd.pool.observe channel code).Wanes crowd.pool
    rcases pool_observe crowd.pool channel code with same | same
    · rw [same]
      exact Wanes.refl _
    · rw [same]
      exact Wanes.markFailing _ _
  | markFailing channel => exact Or.inr (Wanes.markFailing _ _)
  | evict => exact Or.inr (Wanes.evict _ _)
  | closeAll => exact Or.inr (Wanes.closeAll _)
  | pass length => exact Or.inr (Wanes.refl _)

/-! ## Where channels come from -/

/-- A channel was there already, or the turn is the end of its dial. -/
theorem dialed_step {crowd : Crowd γ} {turn : Turn γ} {number : Nat} {channel : Channel γ}
    (present : (crowd.step turn).pool.channels[number]? = some channel) :
    (∃ old, crowd.pool.channels[number]? = some old ∧ old.address = channel.address ∧
      old.line = channel.line) ∨
    ∃ place, turn = .dialed place (.ok channel.line) ∧
      crowd.acquisitions[place]? = some (.dialing channel.address) ∧
      number = crowd.pool.channels.length := by
  rcases insert_or_wanes crowd turn with ⟨place, address, line, isEnd, waits, inserted⟩ | wanes
  · rw [inserted] at present
    rcases present_insert.mp present with ⟨old, presentOld, rfl⟩ | ⟨isNew, rfl⟩
    · exact Or.inl ⟨old, presentOld, (address_closedIn _ number old).symm,
        (line_closedIn _ number old).symm⟩
    · exact Or.inr ⟨place, isEnd, waits, isNew⟩
  · obtain ⟨old, presentOld, sameAddress, sameLine, -⟩ := wanes.channels present
    exact Or.inl ⟨old, presentOld, sameAddress, sameLine⟩

/-- A channel was there at the beginning, or was dialed since. -/
theorem dialed_run {crowd : Crowd γ} {turns : List (Turn γ)} {number : Nat} {channel : Channel γ}
    (present : (crowd.run turns).pool.channels[number]? = some channel) :
    (∃ old, crowd.pool.channels[number]? = some old ∧ old.address = channel.address ∧
      old.line = channel.line) ∨
    ∃ first place rest, turns = first ++ .dialed place (.ok channel.line) :: rest ∧
      (crowd.run first).acquisitions[place]? = some (.dialing channel.address) ∧
      number = (crowd.run first).pool.channels.length := by
  induction turns generalizing crowd with
  | nil => exact Or.inl ⟨channel, present, rfl, rfl⟩
  | cons turn rest ih =>
    have presentAtEnd : ((crowd.step turn).run rest).pool.channels[number]? = some channel :=
      present
    rcases ih presentAtEnd with
      ⟨old, presentOld, sameAddress, sameLine⟩ | ⟨first, place, later, parts, waits, isNew⟩
    · rcases dialed_step presentOld with ⟨older, presentOlder, address, line⟩ |
        ⟨place, isEnd, waits, isNew⟩
      · exact Or.inl ⟨older, presentOlder, address.trans sameAddress, line.trans sameLine⟩
      · rw [sameLine] at isEnd
        rw [sameAddress] at waits
        exact Or.inr ⟨[], place, rest, by rw [isEnd, List.nil_append], waits, isNew⟩
    · exact Or.inr ⟨turn :: first, place, later, by rw [parts, List.cons_append], waits, isNew⟩

end Crowd

/-! ## Channels that are spent -/

/-- A channel that is there is not ready, or all entries that hold it have expired. -/
def Spent (pool : Pool γ) (now number : Nat) : Prop :=
  ∃ channel, pool.channels[number]? = some channel ∧ (channel.state = .ready →
    ∀ address entry, pool.entries.get? address = some entry → entry.channel = number →
      entry.expiry ≤ now)

theorem usable_iff {entry : Entry} {now : Nat} :
    (! entry.isExpired now && pool.isReady entry.channel) = true ↔
      now < entry.expiry ∧ pool.state? entry.channel = some .ready := by
  simp only [Entry.isExpired, isReady, Bool.and_eq_true, Bool.not_eq_true',
    decide_eq_false_iff_not, Nat.not_le, beq_iff_eq]

theorem find_eq_fit_iff {address : String} {now number : Nat} :
    pool.find address now = .fit number ↔
      ∃ entry, pool.entries.get? address = some entry ∧ entry.channel = number ∧
        now < entry.expiry ∧ pool.state? number = some .ready := by
  unfold find
  cases held : pool.entries.get? address with
  | none => exact iff_of_false nofun nofun
  | some entry =>
    simp only [Option.some.injEq, exists_eq_left']
    split
    · rename_i usable
      rw [Found.fit.injEq]
      constructor
      · rintro rfl
        exact ⟨rfl, usable_iff.mp usable⟩
      · exact And.left
    · rename_i unusable
      refine iff_of_false nofun ?_
      rintro ⟨rfl, usable⟩
      exact unusable (usable_iff.mpr usable)

/-- A channel that is spent is not fit for use. -/
theorem Spent.find_ne {now number : Nat} (spent : pool.Spent now number) (address : String) :
    pool.find address now ≠ .fit number := by
  intro fit
  obtain ⟨entry, held, isHeld, fresh, ready⟩ := find_eq_fit_iff.mp fit
  obtain ⟨channel, present, expires⟩ := spent
  rw [state?, present, Option.map_some, Option.some.injEq] at ready
  exact absurd (expires ready address entry held isHeld) (Nat.not_le.mpr fresh)

theorem Spent.lt_length {now number : Nat} (spent : pool.Spent now number) :
    number < pool.channels.length := by
  obtain ⟨channel, present, -⟩ := spent
  exact (List.getElem?_eq_some_iff.mp present).1

namespace Crowd

theorem now_step (crowd : Crowd γ) (turn : Turn γ) : crowd.now ≤ (crowd.step turn).now := by
  cases turn with
  | pass length => exact Nat.le_add_right _ _
  | discard place =>
    simp only [step]
    split <;> exact Nat.le_refl _
  | dialed place result =>
    simp only [step]
    split <;> exact Nat.le_refl _
  | _ => exact Nat.le_refl _

/-- Nothing makes a channel fit for use again. -/
theorem spent_step {crowd : Crowd γ} {number : Nat}
    (spent : crowd.pool.Spent crowd.now number) (turn : Turn γ) :
    (crowd.step turn).pool.Spent (crowd.step turn).now number := by
  have known := spent.lt_length
  obtain ⟨channel, present, expires⟩ := spent
  obtain ⟨later, presentLater, -, -⟩ := outlives_step crowd turn number channel present
  refine ⟨later, presentLater, ?_⟩
  intro ready address entry held isHeld
  have older : entry.expiry ≤ crowd.now := by
    rcases insert_or_wanes crowd turn with ⟨_, dialed, line, _, _, inserted⟩ | wanes
    · rw [inserted] at presentLater held
      rw [entries_insert, Dict.get?_insert_eq_some_iff] at held
      rcases present_insert.mp presentLater with ⟨old, presentOld, rfl⟩ | ⟨isNew, -⟩
      · rw [present] at presentOld
        cases presentOld
        rcases held with ⟨-, rfl⟩ | ⟨-, held⟩
        · exact absurd isHeld.symm (Nat.ne_of_lt known)
        · exact expires (ready_of_closedIn ready) address entry held isHeld
      · exact absurd isNew (Nat.ne_of_lt known)
    · obtain ⟨old, presentOld, -, -, wasReady⟩ := wanes.channels presentLater
      rw [present] at presentOld
      cases presentOld
      exact expires (wasReady ready) address entry (wanes.entries held) isHeld
  exact Nat.le_trans older (now_step crowd turn)

theorem spent_run {crowd : Crowd γ} {number : Nat}
    (spent : crowd.pool.Spent crowd.now number) (turns : List (Turn γ)) :
    (crowd.run turns).pool.Spent (crowd.run turns).now number := by
  induction turns generalizing crowd with
  | nil => exact spent
  | cons turn rest ih => exact ih (spent_step spent turn)

end Crowd

/-! ## What spends a channel -/

/-- The host and the port that an acquisition asks for which begins with a turn. -/
def Turn.request? : Turn γ → Option (String × String)
  | .begin host port => some (host, port)
  | .look host port => some (host, port)
  | _ => none

/-- What makes a channel unfit for use: a call over it that fails, its eviction, the end of the
process, another one that takes its place, or a look that finds it expired. -/
inductive Crowd.Spends (crowd : Crowd γ) (number : Nat) : Turn γ → Prop where
  | observed (known : number < crowd.pool.channels.length) :
    Spends crowd number (.observe number .unavailable)
  | failed (known : number < crowd.pool.channels.length) :
    Spends crowd number (.markFailing number)
  | evicted {address : String} {entry : Entry}
    (held : crowd.pool.entries.get? address = some entry) (isHeld : entry.channel = number)
    (expired : entry.expiry ≤ crowd.now) : Spends crowd number .evict
  | ended {address : String} {entry : Entry}
    (held : crowd.pool.entries.get? address = some entry) (isHeld : entry.channel = number) :
    Spends crowd number .closeAll
  | replaced {place : Nat} {address : String} {line : γ} {entry : Entry}
    (waits : crowd.acquisitions[place]? = some (.dialing address))
    (held : crowd.pool.entries.get? address = some entry) (isHeld : entry.channel = number) :
    Spends crowd number (.dialed place (.ok line))
  | found {turn : Turn γ} {host port : String} {entry : Entry}
    (begins : turn.request? = some (host, port))
    (held : crowd.pool.entries.get? (addressOf host port) = some entry)
    (isHeld : entry.channel = number) (expired : entry.expiry ≤ crowd.now) :
    Spends crowd number turn

theorem Spent.of_closedIn {numbers : List Nat} {number : Nat} {channel : Channel γ}
    (present : pool.channels[number]? = some (closedIn numbers number channel))
    (member : number ∈ numbers) (now : Nat) : pool.Spent now number := by
  refine ⟨_, present, fun ready => absurd member ?_⟩
  have isOpen : (closedIn numbers number channel).state ≠ .closed := by
    rw [ready]
    exact nofun
  exact (state_closedIn.mp isOpen).1

theorem Spent.markFailing {number : Nat} (known : number < pool.channels.length) (now : Nat) :
    (pool.markFailing number).Spent now number := by
  have present : (pool.markFailing number).channels[number]? =
      some (failedIn number number pool.channels[number]) := by
    rw [channels_markFailing, List.getElem?_eq_getElem known, Option.map_some]
  refine ⟨_, present, fun ready => ?_⟩
  have wasReady := ready_of_failedIn ready
  rw [failedIn, if_pos ⟨rfl, wasReady⟩] at ready
  cases ready

/-- Whatever is held for the address of a channel that has expired is that channel. -/
theorem Kept.spent_of_expired (kept : pool.Kept) {now : Nat} {address : String} {entry : Entry}
    (held : pool.entries.get? address = some entry) (expired : entry.expiry ≤ now) :
    pool.Spent now entry.channel := by
  obtain ⟨channel, present, -⟩ := kept.held held
  refine ⟨channel, present, ?_⟩
  intro _ other otherEntry heldOther same
  rw [kept.address_inj heldOther held same, held] at heldOther
  cases heldOther
  exact expired

namespace Crowd

theorem pool_dialed {crowd : Crowd γ} {place : Nat} {address : String}
    (waits : crowd.acquisitions[place]? = some (.dialing address)) (result : Except Fault γ) :
    (crowd.step (.dialed place result)).pool =
      (crowd.pool.endAcquire address result crowd.now).2.1 := by
  simp only [step, waits]

theorem Spends.spent {crowd : Crowd γ} {number : Nat} {turn : Turn γ}
    (spends : crowd.Spends number turn) (kept : crowd.pool.Kept) :
    (crowd.step turn).pool.Spent (crowd.step turn).now number := by
  cases spends with
  | observed known => exact Spent.markFailing known _
  | failed known => exact Spent.markFailing known _
  | @evicted address entry held isHeld expired =>
    subst isHeld
    obtain ⟨channel, present, -⟩ := kept.held held
    have after : (crowd.pool.evict crowd.now).channels[entry.channel]? =
        some (closedIn _ entry.channel channel) := present_closeEach.mpr ⟨channel, present, rfl⟩
    refine Spent.of_closedIn after ?_ crowd.now
    refine List.mem_map.mpr ⟨(address, entry), List.mem_filter.mpr ⟨?_, ?_⟩, rfl⟩
    · exact Dict.mem_entries_iff.mpr held
    · exact decide_eq_true expired
  | @ended address entry held isHeld =>
    subst isHeld
    obtain ⟨channel, present, -⟩ := kept.held held
    have after : crowd.pool.closeAll.channels[entry.channel]? =
        some (closedIn _ entry.channel channel) := present_closeEach.mpr ⟨channel, present, rfl⟩
    refine Spent.of_closedIn after ?_ crowd.now
    exact List.mem_map.mpr ⟨(address, entry), Dict.mem_entries_iff.mpr held, rfl⟩
  | @replaced place address line entry waits held isHeld =>
    subst isHeld
    obtain ⟨channel, present, -⟩ := kept.held held
    rw [pool_dialed waits]
    exact Spent.of_closedIn (present_insert.mpr (Or.inl ⟨channel, present, rfl⟩))
      (mem_current.mpr ⟨entry, held, rfl⟩) _
  | @found _ host port entry begins held isHeld expired =>
    subst isHeld
    exact spent_step (kept.spent_of_expired held expired) turn

end Crowd

end Pool

end Gatehouse
