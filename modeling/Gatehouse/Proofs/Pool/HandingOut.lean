import Gatehouse.Proofs.Pool.Acquisitions

/-!
What callers get from a pool that many of them use at once.

Freshness and health are looked at when an acquisition begins. A channel that has to be dialed is
put into the pool much later, under the address alone, whatever is there by then. A caller gets what
its look has found or what its dial has brought, and `Crowd.handed_out` says so; the origin of every
channel and the channels that are spent give the rest.
-/

namespace Gatehouse

namespace Pool

variable {γ : Type}

/-! ## Outcomes -/

/-- What comes of an acquisition at its beginning. -/
def Acquisition.outcome? : Acquisition → Option (Except Fault Nat)
  | .refused fault => some (.error fault)
  | .reused channel => some (.ok channel)
  | .dialing _ => none

/-- The acquisition that comes to its end with a turn, and what its caller gets. -/
def Crowd.outcome? (crowd : Crowd γ) : Turn γ → Option (Nat × Except Fault Nat)
  | .begin host port | .look host port =>
    (crowd.pool.beginAcquire host port crowd.now).1.outcome?.map (crowd.acquisitions.length, ·)
  | .dialed place result =>
    match crowd.acquisitions[place]? with
    | some (.dialing address) =>
      some (place, (crowd.pool.endAcquire address result crowd.now).1)
    | _ => none
  | _ => none

theorem reused_of_outcome {pool : Pool γ} {host port : String} {now number : Nat}
    (reused : (pool.beginAcquire host port now).1.outcome? = some (.ok number)) :
    pool.find (addressOf host port) now = .fit number ∧
      (pool.beginAcquire host port now).2 = pool := by
  cases nameless : host.isEmpty || port.isEmpty with
  | true =>
    simp only [beginAcquire, nameless, if_true, Acquisition.outcome?, Option.some.injEq,
      reduceCtorEq] at reused
  | false =>
    cases found : pool.find (addressOf host port) now with
    | fit channel =>
      simp only [beginAcquire, nameless, found, Bool.false_eq_true, if_false,
        Acquisition.outcome?, Option.some.injEq, Except.ok.injEq] at reused ⊢
      exact ⟨congrArg Found.fit reused, trivial⟩
    | _ =>
      simp only [beginAcquire, nameless, found, Bool.false_eq_true, if_false,
        Acquisition.outcome?, reduceCtorEq] at reused

theorem refused_of_nameless {host port : String} (nameless : host = "" ∨ port = "")
    (pool : Pool γ) (now : Nat) :
    pool.beginAcquire host port now =
      (.refused (.connection (addressOf host port) "empty host or port"), pool) := by
  have isNameless : (host.isEmpty || port.isEmpty) = true := by
    rw [← Bool.not_eq_false, named_iff]
    rintro ⟨hostNamed, portNamed⟩
    exact nameless.elim hostNamed portNamed
  unfold beginAcquire
  rw [if_pos isNameless]

namespace Crowd

/-- The outcome of an acquisition that begins. -/
theorem outcome?_request {crowd : Crowd γ} {turn : Turn γ} {host port : String}
    (begins : turn.request? = some (host, port)) :
    crowd.outcome? turn =
      (crowd.pool.beginAcquire host port crowd.now).1.outcome?.map
        (crowd.acquisitions.length, ·) := by
  cases turn with
  | begin _ _ =>
    cases begins
    rfl
  | look _ _ =>
    cases begins
    rfl
  | _ => cases begins

theorem pool_request {crowd : Crowd γ} {turn : Turn γ} {host port : String}
    (begins : turn.request? = some (host, port))
    (same : (crowd.pool.beginAcquire host port crowd.now).2 = crowd.pool) :
    (crowd.step turn).pool = crowd.pool := by
  cases turn with
  | begin _ _ =>
    cases begins
    exact same
  | look _ _ => rfl
  | _ => cases begins

/-- Whoever gets a channel has found it fit for use, or it has just been dialed. -/
theorem handed_out {crowd : Crowd γ} {turn : Turn γ} {place number : Nat}
    (returned : crowd.outcome? turn = some (place, .ok number)) :
    (∃ host port, turn.request? = some (host, port) ∧ place = crowd.acquisitions.length ∧
      crowd.pool.find (addressOf host port) crowd.now = .fit number ∧
      (crowd.step turn).pool = crowd.pool) ∨
    ∃ address line, turn = .dialed place (.ok line) ∧
      crowd.acquisitions[place]? = some (.dialing address) ∧
      number = crowd.pool.channels.length ∧
      (crowd.step turn).pool = (crowd.pool.insert address line crowd.now).2 := by
  have found {host port : String} (begins : turn.request? = some (host, port)) :
      place = crowd.acquisitions.length ∧
        crowd.pool.find (addressOf host port) crowd.now = .fit number ∧
        (crowd.step turn).pool = crowd.pool := by
    rw [outcome?_request begins, Option.map_eq_some_iff] at returned
    obtain ⟨outcome, reused, same⟩ := returned
    cases same
    obtain ⟨fit, unchanged⟩ := reused_of_outcome reused
    exact ⟨rfl, fit, pool_request begins unchanged⟩
  cases turn with
  | begin host port => exact Or.inl ⟨host, port, rfl, found rfl⟩
  | look host port => exact Or.inl ⟨host, port, rfl, found rfl⟩
  | dialed other result =>
    simp only [outcome?] at returned
    split at returned
    · rename_i address waits
      cases result with
      | error fault => cases returned
      | ok line =>
        cases returned
        refine Or.inr ⟨address, line, rfl, waits, rfl, ?_⟩
        simp only [step, waits]
        rfl
    · cases returned
  | _ => cases returned

/-- The dial of an acquisition for a host and a port has brought a channel in some turns. -/
def DialedFor (crowd : Crowd γ) (turns : List (Turn γ)) (number : Nat) (line : γ)
    (host port : String) : Prop :=
  ∃ first place rest, turns = first ++ .dialed place (.ok line) :: rest ∧
    (crowd.run first).outcome? (.dialed place (.ok line)) = some (place, .ok number) ∧
    (requests turns)[place]? = some (host, port)

/-- Every channel of a pool that was empty was dialed for a request with its address. -/
theorem dialedFor_run {start : Crowd γ} (empty : start.pool.channels = [])
    (idle : Asked [] start) {turns : List (Turn γ)} {number : Nat} {channel : Channel γ}
    (present : (start.run turns).pool.channels[number]? = some channel) :
    ∃ host port, start.DialedFor turns number channel.line host port ∧
      addressOf host port = channel.address := by
  rcases dialed_run present with ⟨old, presentOld, -⟩ |
    ⟨first, place, rest, parts, waits, isNew⟩
  · rw [empty] at presentOld
    cases presentOld
  · obtain ⟨host, port, own, leads⟩ := (asked_run idle first).asks waits rfl
    rw [List.nil_append] at own
    refine ⟨host, port, ⟨first, place, rest, parts, ?_, ?_⟩, leads⟩
    · simp only [outcome?, waits, endAcquire, isNew]
      rfl
    · have inside : place < (requests first).length := (List.getElem?_eq_some_iff.mp own).1
      rw [parts, requests_append, List.getElem?_append_left inside, own]

/-- A channel that is handed out is ready, and held for the address that was asked for. -/
theorem current_of_handed_out {crowd : Crowd γ} {asked : List (String × String)} {turn : Turn γ}
    {place number : Nat} (kept : crowd.pool.Kept) (isAsked : Asked asked crowd)
    (returned : crowd.outcome? turn = some (place, .ok number)) :
    ∃ host port line entry, (asked ++ turn.request?.toList)[place]? = some (host, port) ∧
      (crowd.step turn).pool.channels[number]? = some ⟨addressOf host port, line, .ready⟩ ∧
      (crowd.step turn).pool.entries.get? (addressOf host port) = some entry ∧
      entry.channel = number ∧ (turn.request?.isSome → crowd.now < entry.expiry) := by
  rcases handed_out returned with ⟨host, port, begins, atEnd, fit, same⟩ |
    ⟨address, line, isEnd, waits, isNew, inserted⟩
  · obtain ⟨entry, held, rfl, fresh, ready⟩ := find_eq_fit_iff.mp fit
    obtain ⟨⟨address, line, state⟩, present, leads, -⟩ := kept.held held
    rw [state?, present, Option.map_some, Option.some.injEq] at ready
    cases ready
    cases leads
    rw [same, begins, atEnd, isAsked.sameLength, Option.toList_some]
    exact ⟨host, port, line, entry, List.getElem?_concat_length, present, held, rfl,
      fun _ => fresh⟩
  · obtain ⟨host, port, own, rfl⟩ := isAsked.asks waits rfl
    have inside : place < asked.length := (List.getElem?_eq_some_iff.mp own).1
    rw [inserted, isEnd, isNew]
    refine ⟨host, port, line, ⟨crowd.pool.channels.length, crowd.now + crowd.pool.ttl⟩, ?_,
      present_insert.mpr (Or.inr ⟨rfl, rfl⟩), ?_, rfl, fun wrong => absurd wrong Bool.false_ne_true⟩
    · rw [List.getElem?_append_left inside, own]
    · rw [entries_insert, Dict.get?_insert, if_pos rfl]

/-- A channel that is spent is not handed out. -/
theorem not_handed_out {crowd : Crowd γ} {number : Nat}
    (spent : crowd.pool.Spent crowd.now number) (turn : Turn γ) (place : Nat) :
    crowd.outcome? turn ≠ some (place, .ok number) := by
  intro returned
  rcases handed_out returned with ⟨host, port, -, -, fit, -⟩ | ⟨_, _, -, -, isNew, -⟩
  · exact spent.find_ne _ fit
  · exact absurd isNew (Nat.ne_of_lt spent.lt_length)

end Crowd

/-- Discarding a channel leaves alone what else is held. -/
theorem discard_of_ne {pool : Pool γ} {address other : String} {number : Nat} {entry : Entry}
    (held : pool.entries.get? other = some entry) (different : entry.channel ≠ number) :
    (pool.discard address number).entries.get? other = some entry ∧
      (pool.discard address number).channels[entry.channel]? =
        pool.channels[entry.channel]? := by
  unfold discard
  split
  · rename_i holds
    obtain ⟨current, found, isCurrent⟩ := holds_iff.mp holds
    have elsewhere : other ≠ address := by
      rintro rfl
      rw [found] at held
      cases held
      exact different isCurrent
    refine ⟨Dict.get?_erase_eq_some_iff.mpr ⟨held, elsewhere⟩, ?_⟩
    change (pool.setState number .closed).channels[entry.channel]? = _
    rw [channels_setState]
    simp only [different.symm, if_false, Option.map_id']
  · exact ⟨held, rfl⟩

/-! ## Addresses -/

theorem eq_of_append_colon {first second rest other : List Char}
    (same : first ++ ':' :: rest = second ++ ':' :: other) (free : ':' ∉ rest)
    (freeOther : ':' ∉ other) : first = second ∧ rest = other := by
  rcases List.append_eq_append_iff.mp same with ⟨more, rfl, tail⟩ | ⟨more, rfl, tail⟩
  all_goals
    cases more with
    | nil =>
      cases tail
      exact ⟨by simp only [List.append_nil], rfl⟩
    | cons c more =>
      rw [List.cons_append, List.cons.injEq] at tail
      obtain ⟨rfl, rfl⟩ := tail
      simp only [List.mem_append, List.mem_cons, true_or, or_true, not_true_eq_false]
        at free freeOther

/-- An address tells the host from the port if there is no colon in the port. -/
theorem addressOf_inj {host port otherHost otherPort : String}
    (same : addressOf host port = addressOf otherHost otherPort) (free : ':' ∉ port.toList)
    (freeOther : ':' ∉ otherPort.toList) : host = otherHost ∧ port = otherPort := by
  have chars := congrArg String.toList same
  simp only [addressOf, String.toList_append, List.append_assoc] at chars
  obtain ⟨sameHost, samePort⟩ := eq_of_append_colon chars free freeOther
  exact ⟨String.toList_inj.mp sameHost, String.toList_inj.mp samePort⟩

/-- Whatever many callers, the evictor and the end of the process do to a pool that was empty, and
in whatever order:

An acquisition dials exactly if its look finds nothing that is fit for use, and then it dials the
address that it asks for. One without a host or a port fails at once, and leaves the pool alone.
A channel that is handed out is ready and is the one that is held for the address. It has not
expired if it was not just dialed, and it was dialed for the same address; so for the same host and
port, unless there is a colon in a port. A channel that is spent is never handed out later. A dial
that fails leaves the pool as it is, and an acquisition discards only what it has found. -/
theorem interleaving_hands_out (ttl : Nat) (early later : List (Turn γ)) (turn : Turn γ) :
    let start : Crowd γ := { pool := { ttl } }
    let before := start.run early
    let after := before.step turn
    (∀ host port, turn.request? = some (host, port) →
      (∀ address, after.Dials later before.acquisitions.length address ↔
        addressOf host port = address ∧ host ≠ "" ∧ port ≠ "" ∧ before.Unfit address) ∧
      (host = "" ∨ port = "" → after.pool = before.pool ∧
        before.outcome? turn = some (before.acquisitions.length,
          .error (.connection (addressOf host port) "empty host or port")))) ∧
    (∀ place number, before.outcome? turn = some (place, .ok number) →
      ∃ host port line entry, (requests (early ++ [turn]))[place]? = some (host, port) ∧
        after.pool.channels[number]? = some ⟨addressOf host port, line, .ready⟩ ∧
        after.pool.entries.get? (addressOf host port) = some entry ∧ entry.channel = number ∧
        (turn.request?.isSome → before.now < entry.expiry) ∧
        ∃ dialedHost dialedPort,
          start.DialedFor (early ++ [turn]) number line dialedHost dialedPort ∧
          addressOf dialedHost dialedPort = addressOf host port ∧
          (':' ∉ dialedPort.toList → ':' ∉ port.toList →
            dialedHost = host ∧ dialedPort = port)) ∧
    (∀ number, before.Spends number turn → ∀ next place,
      (after.run later).outcome? next ≠ some (place, .ok number)) ∧
    (∀ place address, before.acquisitions[place]? = some (.dialing address) → ∀ fault,
      turn = .dialed place (.error fault) →
        before.outcome? turn = some (place, .error fault) ∧ after.pool = before.pool) ∧
    ∀ place address found, before.acquisitions[place]? = some (.discarding address found) →
      turn = .discard place → ∀ other entry, before.pool.entries.get? other = some entry →
        entry.channel ≠ found → after.pool.entries.get? other = some entry ∧
          after.pool.channels[entry.channel]? = before.pool.channels[entry.channel]? := by
  intro start before after
  have idle : Crowd.Asked [] start := ⟨rfl, nofun⟩
  have kept : before.pool.Kept := Crowd.kept_run (Kept.empty ttl) early
  refine ⟨?_, ?_, ?_, ?_, ?_⟩
  · intro host port begins
    refine ⟨Crowd.dials_iff_unfit begins later, ?_⟩
    intro nameless
    have refused := refused_of_nameless nameless before.pool before.now
    refine ⟨Crowd.pool_request begins (congrArg Prod.snd refused), ?_⟩
    rw [Crowd.outcome?_request begins, refused]
    rfl
  · intro place number returned
    obtain ⟨host, port, line, entry, own, present, held, isHeld, fresh⟩ :=
      Crowd.current_of_handed_out kept (Crowd.asked_run idle early) returned
    have presentAtEnd : (start.run (early ++ [turn])).pool.channels[number]? =
        some ⟨addressOf host port, line, .ready⟩ := by
      rw [Crowd.run_append]
      exact present
    obtain ⟨dialedHost, dialedPort, dialed, leads⟩ := Crowd.dialedFor_run rfl idle presentAtEnd
    refine ⟨host, port, line, entry, ?_, present, held, isHeld, fresh,
      dialedHost, dialedPort, dialed, leads, addressOf_inj leads⟩
    have asked : requests (early ++ [turn]) = requests early ++ turn.request?.toList := by
      rw [requests_append, requests_cons, ← List.append_assoc]
      exact List.append_nil _
    rw [asked]
    exact own
  · intro number spends next place
    exact Crowd.not_handed_out (Crowd.spent_run (spends.spent kept) later) next place
  · rintro place address waits fault rfl
    refine ⟨?_, Crowd.pool_dialed waits (.error fault)⟩
    simp only [Crowd.outcome?, waits]
    rfl
  · rintro place address found waits rfl other entry held different
    have discards : after.pool = before.pool.discard address found := by
      simp only [after, Crowd.step, waits]
    rw [discards]
    exact discard_of_ne held different

end Pool

end Gatehouse
