import Gatehouse.Proofs.Pool.Keeping

/-!
A pool that many callers use at once.

Nothing is locked while a caller dials, nor between the moment when it finds that a channel is not
fit for use and the moment when it discards it. So an acquisition is up to three operations on the
pool, with anything between them: other acquisitions of the same address, calls that fail, the
evictor, and the end of the process.

`Crowd.step` carries out one operation for one of any number of acquisitions. `Crowd.kept_run` shows
that the pool is kept whatever the order of the operations, and the theorem at the end says what
that means for channels and addresses.
-/

namespace Gatehouse

namespace Pool

variable {γ : Type}

/-- How far an acquisition has come. -/
inductive Stage where
  /-- A channel has been found that is not fit for use. -/
  | discarding (address : String) (channel : Nat)
  | dialing (address : String)
  | done
  deriving DecidableEq, Repr

/-- The stage after the beginning of an acquisition. -/
def Acquisition.stage : Acquisition → Stage
  | .refused _ => .done
  | .reused _ => .done
  | .dialing address => .dialing address

/-- The stage after a look for a channel to an address. -/
def Found.stage (address : String) : Found → Stage
  | .nothing => .dialing address
  | .fit _ => .done
  | .unfit channel => .discarding address channel

/-- A pool at a moment, and the acquisitions that have begun so far. -/
structure Crowd (γ : Type) where
  now : Nat := 0
  pool : Pool γ
  acquisitions : List Stage := []

/-- An operation on the pool, or a length of time. -/
inductive Turn (γ : Type) where
  /-- An acquisition begins, and discards what is not fit for use at once. -/
  | begin (host port : String)
  /-- An acquisition begins with nothing but its look. -/
  | look (host port : String)
  /-- An acquisition discards what its look has found. -/
  | discard (acquisition : Nat)
  /-- The dial of an acquisition ends. -/
  | dialed (acquisition : Nat) (result : Except Fault γ)
  /-- A call over a channel ends. -/
  | observe (channel : Nat) (code : RpcCode)
  /-- A call over a channel fails. -/
  | markFailing (channel : Nat)
  | evict
  | closeAll
  | pass (length : Nat)

namespace Crowd

/-- One turn. The turn of an acquisition that has not come that far, or is beyond that, does
nothing. -/
def step (crowd : Crowd γ) : Turn γ → Crowd γ
  | .begin host port =>
    let (acquisition, pool) := crowd.pool.beginAcquire host port crowd.now
    { crowd with pool, acquisitions := crowd.acquisitions ++ [acquisition.stage] }
  | .look host port =>
    let address := addressOf host port
    let stage :=
      if host.isEmpty || port.isEmpty then .done
      else (crowd.pool.find address crowd.now).stage address
    { crowd with acquisitions := crowd.acquisitions ++ [stage] }
  | .discard acquisition =>
    match crowd.acquisitions[acquisition]? with
    | some (.discarding address channel) =>
      { crowd with
        pool := crowd.pool.discard address channel
        acquisitions := crowd.acquisitions.set acquisition (.dialing address) }
    | _ => crowd
  | .dialed acquisition result =>
    match crowd.acquisitions[acquisition]? with
    | some (.dialing address) =>
      { crowd with
        pool := (crowd.pool.endAcquire address result crowd.now).2.1
        acquisitions := crowd.acquisitions.set acquisition .done }
    | _ => crowd
  | .observe channel code => { crowd with pool := crowd.pool.observe channel code }
  | .markFailing channel => { crowd with pool := crowd.pool.markFailing channel }
  | .evict => { crowd with pool := crowd.pool.evict crowd.now }
  | .closeAll => { crowd with pool := crowd.pool.closeAll }
  | .pass length => { crowd with now := crowd.now + length }

def run (crowd : Crowd γ) (turns : List (Turn γ)) : Crowd γ :=
  turns.foldl step crowd

theorem run_append (crowd : Crowd γ) (first rest : List (Turn γ)) :
    crowd.run (first ++ rest) = (crowd.run first).run rest :=
  List.foldl_append

end Crowd

/-! ## One turn -/

theorem pool_beginAcquire (pool : Pool γ) (host port : String) (now : Nat) :
    (pool.beginAcquire host port now).2 = pool ∨
      ∃ address channel, (pool.beginAcquire host port now).2 = pool.discard address channel := by
  simp only [beginAcquire]
  split
  · exact Or.inl rfl
  · cases pool.find (addressOf host port) now with
    | nothing => exact Or.inl rfl
    | fit channel => exact Or.inl rfl
    | unfit channel => exact Or.inr ⟨_, channel, rfl⟩

theorem pool_endAcquire (pool : Pool γ) (address : String) (dialed : Except Fault γ) (now : Nat) :
    (pool.endAcquire address dialed now).2.1 = pool ∨
      ∃ line, (pool.endAcquire address dialed now).2.1 = (pool.insert address line now).2 := by
  cases dialed with
  | error fault => exact Or.inl rfl
  | ok line => exact Or.inr ⟨line, rfl⟩

theorem pool_observe (pool : Pool γ) (channel : Nat) (code : RpcCode) :
    pool.observe channel code = pool ∨ pool.observe channel code = pool.markFailing channel := by
  unfold observe
  split
  · exact Or.inr rfl
  · exact Or.inl rfl

namespace Crowd

/-- An acquisition that begins is one that looks and at once discards what it has found. -/
theorem step_begin (crowd : Crowd γ) (host port : String) :
    crowd.step (.begin host port) =
      (crowd.step (.look host port)).step (.discard crowd.acquisitions.length) := by
  cases nameless : host.isEmpty || port.isEmpty with
  | true =>
    simp only [step, beginAcquire, nameless, if_true, Acquisition.stage,
      List.getElem?_concat_length]
  | false =>
    cases found : crowd.pool.find (addressOf host port) crowd.now with
    | nothing =>
      simp only [step, beginAcquire, nameless, found, Bool.false_eq_true, if_false,
        Acquisition.stage, Found.stage, List.getElem?_concat_length]
    | fit channel =>
      simp only [step, beginAcquire, nameless, found, Bool.false_eq_true, if_false,
        Acquisition.stage, Found.stage, List.getElem?_concat_length]
    | unfit channel =>
      simp only [step, beginAcquire, nameless, found, Bool.false_eq_true, if_false,
        Acquisition.stage, Found.stage, List.getElem?_concat_length, List.set_append_right,
        Nat.le_refl, Nat.sub_self, List.set_cons_zero]

/-- What a turn does to the pool is one of the operations on pools. -/
theorem pool_step (crowd : Crowd γ) (turn : Turn γ) :
    (crowd.step turn).pool = crowd.pool ∨
      (∃ address channel, (crowd.step turn).pool = crowd.pool.discard address channel) ∨
      (∃ address line, (crowd.step turn).pool = (crowd.pool.insert address line crowd.now).2) ∨
      (∃ channel, (crowd.step turn).pool = crowd.pool.markFailing channel) ∨
      (crowd.step turn).pool = crowd.pool.evict crowd.now ∨
      (crowd.step turn).pool = crowd.pool.closeAll := by
  cases turn with
  | begin host port =>
    rcases pool_beginAcquire crowd.pool host port crowd.now with same | ⟨address, channel, same⟩
    · exact Or.inl same
    · exact Or.inr (Or.inl ⟨address, channel, same⟩)
  | look host port => exact Or.inl rfl
  | discard acquisition =>
    simp only [step]
    split
    · rename_i address channel _
      exact Or.inr (Or.inl ⟨address, channel, rfl⟩)
    · exact Or.inl rfl
  | dialed acquisition result =>
    simp only [step]
    split
    · rename_i address _
      rcases pool_endAcquire crowd.pool address result crowd.now with same | ⟨line, same⟩
      · exact Or.inl same
      · exact Or.inr (Or.inr (Or.inl ⟨address, line, same⟩))
    · exact Or.inl rfl
  | observe channel code =>
    rcases pool_observe crowd.pool channel code with same | same
    · exact Or.inl same
    · exact Or.inr (Or.inr (Or.inr (Or.inl ⟨channel, same⟩)))
  | markFailing channel => exact Or.inr (Or.inr (Or.inr (Or.inl ⟨channel, rfl⟩)))
  | evict => exact Or.inr (Or.inr (Or.inr (Or.inr (Or.inl rfl))))
  | closeAll => exact Or.inr (Or.inr (Or.inr (Or.inr (Or.inr rfl))))
  | pass length => exact Or.inl rfl

theorem kept_step {crowd : Crowd γ} (kept : crowd.pool.Kept) (turn : Turn γ) :
    (crowd.step turn).pool.Kept := by
  rcases pool_step crowd turn with same | ⟨address, channel, same⟩ | ⟨address, line, same⟩ |
    ⟨channel, same⟩ | same | same
  all_goals rw [same]
  · exact kept
  · exact kept.discard address channel
  · exact kept.insert address line crowd.now
  · exact kept.markFailing channel
  · exact kept.evict crowd.now
  · exact kept.closeAll

theorem outlives_step (crowd : Crowd γ) (turn : Turn γ) :
    (crowd.step turn).pool.Outlives crowd.pool := by
  rcases pool_step crowd turn with same | ⟨address, channel, same⟩ | ⟨address, line, same⟩ |
    ⟨channel, same⟩ | same | same
  all_goals rw [same]
  · exact Outlives.refl crowd.pool
  · exact Outlives.discard crowd.pool address channel
  · exact Outlives.insert crowd.pool address line crowd.now
  · exact Outlives.markFailing crowd.pool channel
  · exact Outlives.evict crowd.pool crowd.now
  · exact Outlives.closeAll crowd.pool

/-! ## Any number of turns -/

theorem kept_run {crowd : Crowd γ} (kept : crowd.pool.Kept) (turns : List (Turn γ)) :
    (crowd.run turns).pool.Kept := by
  induction turns generalizing crowd with
  | nil => exact kept
  | cons turn rest ih => exact ih (kept_step kept turn)

theorem outlives_run (crowd : Crowd γ) (turns : List (Turn γ)) :
    (crowd.run turns).pool.Outlives crowd.pool := by
  induction turns generalizing crowd with
  | nil => exact Outlives.refl crowd.pool
  | cons turn rest ih => exact (ih (crowd.step turn)).trans (outlives_step crowd turn)

end Crowd

/-- Whatever many callers, the evictor and the end of the process do to a pool that was empty, and
in whatever order, the pool holds for an address nothing but a channel to that address that is ready
or failing. A channel is closed exactly from the moment on when it is no longer the one that is held
for its address, and no channel is held for two addresses. -/
theorem interleaving_keeps (ttl : Nat) (turns later : List (Turn γ)) :
    let start : Crowd γ := { pool := { ttl } }
    let pool := (start.run turns).pool
    (∀ address entry, pool.entries.get? address = some entry →
      ∃ channel, pool.channels[entry.channel]? = some channel ∧ channel.address = address ∧
        (channel.state = .ready ∨ channel.state = .failing)) ∧
    (∀ (number : Nat) (channel : Channel γ), pool.channels[number]? = some channel →
      (channel.state = .closed ↔
        ¬ ∃ entry, pool.entries.get? channel.address = some entry ∧ entry.channel = number)) ∧
    (∀ a b entryA entryB, pool.entries.get? a = some entryA → pool.entries.get? b = some entryB →
      a ≠ b → entryA.channel ≠ entryB.channel) ∧
    ∀ (number : Nat) (channel : Channel γ), pool.channels[number]? = some channel →
      channel.state = .closed →
      ∃ after, (start.run (turns ++ later)).pool.channels[number]? = some after ∧
        after.address = channel.address ∧ after.state = .closed := by
  intro start pool
  have kept : pool.Kept := Crowd.kept_run (Kept.empty ttl) turns
  refine ⟨?_, ?_, ?_, ?_⟩
  · intro address entry held
    obtain ⟨channel, present, leads, isOpen⟩ := kept.held held
    refine ⟨channel, present, leads, ?_⟩
    cases state : channel.state with
    | ready => exact Or.inl rfl
    | failing => exact Or.inr rfl
    | closed => exact absurd state isOpen
  · intro number channel present
    exact kept.closed_iff present
  · intro a b entryA entryB heldA heldB different same
    exact different (kept.address_inj heldA heldB same)
  · intro number channel present closed
    rw [Crowd.run_append]
    obtain ⟨after, presentAfter, sameAddress, staysClosed⟩ :=
      Crowd.outlives_run (start.run turns) later number channel present
    exact ⟨after, presentAfter, sameAddress, staysClosed closed⟩

end Pool

end Gatehouse
