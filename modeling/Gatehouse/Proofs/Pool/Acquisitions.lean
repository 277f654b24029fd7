import Gatehouse.Proofs.Pool.Channels

/-!
How the acquisitions of a pool proceed that many callers use at once.

`Crowd.acquisitions_step` says how far a turn brings them. From it follow when an acquisition dials,
which is settled by its look alone, and which request a dial is for.
-/

namespace Gatehouse

namespace Pool

variable {γ : Type}

/-! ## Requests -/

/-- What the acquisitions that begin in a run ask for, in order. -/
def requests (turns : List (Turn γ)) : List (String × String) :=
  turns.filterMap Turn.request?

theorem requests_cons (turn : Turn γ) (rest : List (Turn γ)) :
    requests (turn :: rest) = turn.request?.toList ++ requests rest := by
  unfold requests
  cases asks : turn.request? with
  | none => rw [List.filterMap_cons_none asks, Option.toList_none, List.nil_append]
  | some request => rw [List.filterMap_cons_some asks, Option.toList_some, List.singleton_append]

theorem requests_append (first rest : List (Turn γ)) :
    requests (first ++ rest) = requests first ++ requests rest :=
  List.filterMap_append

/-! ## How acquisitions proceed -/

/-- The address that an acquisition at this stage has still to dial, or dials. -/
def Stage.target? : Stage → Option String
  | .discarding address _ => some address
  | .dialing address => some address
  | .done => none

theorem Found.target?_stage {found : Found} {address other : String} :
    (found.stage address).target? = some other ↔
      address = other ∧ ∀ channel, found ≠ .fit channel := by
  cases found with
  | fit channel => exact iff_of_false nofun fun wrong => wrong.2 channel rfl
  | nothing => exact Option.some_inj.trans (and_iff_left nofun).symm
  | unfit channel => exact Option.some_inj.trans (and_iff_left nofun).symm

theorem named_iff {host port : String} :
    (host.isEmpty || port.isEmpty) = false ↔ host ≠ "" ∧ port ≠ "" := by
  rw [Bool.or_eq_false_iff, String.isEmpty_eq_false_iff, String.isEmpty_eq_false_iff]

namespace Crowd

/-- Nothing that is held for an address is fit for use. -/
def Unfit (crowd : Crowd γ) (address : String) : Prop :=
  ∀ entry, crowd.pool.entries.get? address = some entry →
    entry.expiry ≤ crowd.now ∨ crowd.pool.state? entry.channel ≠ some .ready

theorem unfit_iff {crowd : Crowd γ} {address : String} :
    crowd.Unfit address ↔ ∀ channel, crowd.pool.find address crowd.now ≠ .fit channel := by
  constructor
  · intro unfit channel fit
    obtain ⟨entry, held, rfl, fresh, ready⟩ := find_eq_fit_iff.mp fit
    rcases unfit entry held with expired | unready
    · exact absurd fresh (Nat.not_lt.mpr expired)
    · exact unready ready
  · intro notFit entry held
    rcases Nat.lt_or_ge crowd.now entry.expiry with fresh | expired
    · exact Or.inr fun ready =>
        notFit entry.channel (find_eq_fit_iff.mpr ⟨entry, held, rfl, fresh, ready⟩)
    · exact Or.inl expired

/-- Whether an acquisition dials is settled by its look. -/
theorem acquisitions_look (crowd : Crowd γ) (host port : String) :
    ∃ stage, (crowd.step (.look host port)).acquisitions = crowd.acquisitions ++ [stage] ∧
      ∀ address, stage.target? = some address ↔
        addressOf host port = address ∧ host ≠ "" ∧ port ≠ "" ∧ crowd.Unfit address := by
  refine ⟨_, rfl, ?_⟩
  intro address
  rw [← and_assoc (a := host ≠ ""), ← named_iff]
  cases nameless : host.isEmpty || port.isEmpty with
  | true => exact iff_of_false nofun fun wrong => Bool.noConfusion wrong.2.1
  | false =>
    rw [if_neg Bool.false_ne_true, Found.target?_stage]
    refine and_congr_right ?_
    rintro rfl
    rw [← unfit_iff]
    exact (and_iff_right rfl).symm

/-- An acquisition that discards what it has found dials next. -/
theorem acquisitions_discard (crowd : Crowd γ) (place : Nat) :
    (crowd.step (.discard place)).acquisitions = crowd.acquisitions ∨
      ∃ address channel, crowd.acquisitions[place]? = some (.discarding address channel) ∧
        (crowd.step (.discard place)).acquisitions =
          crowd.acquisitions.set place (.dialing address) := by
  simp only [step]
  split
  · rename_i address channel waits
    exact Or.inr ⟨address, channel, waits, rfl⟩
  · exact Or.inl rfl

/-- How far a turn brings the acquisitions. -/
theorem acquisitions_step (crowd : Crowd γ) (turn : Turn γ) :
    (∃ host port stage, turn.request? = some (host, port) ∧
      (crowd.step turn).acquisitions = crowd.acquisitions ++ [stage] ∧
      ∀ address, stage.target? = some address ↔
        addressOf host port = address ∧ host ≠ "" ∧ port ≠ "" ∧ crowd.Unfit address) ∨
    turn.request? = none ∧
      ((crowd.step turn).acquisitions = crowd.acquisitions ∨
        (∃ place address channel,
          crowd.acquisitions[place]? = some (.discarding address channel) ∧
          (crowd.step turn).acquisitions = crowd.acquisitions.set place (.dialing address)) ∨
        ∃ place address, crowd.acquisitions[place]? = some (.dialing address) ∧
          (crowd.step turn).acquisitions = crowd.acquisitions.set place .done) := by
  cases turn with
  | look host port =>
    obtain ⟨stage, looked, settled⟩ := acquisitions_look crowd host port
    exact Or.inl ⟨host, port, stage, rfl, looked, settled⟩
  | begin host port =>
    obtain ⟨stage, looked, settled⟩ := acquisitions_look crowd host port
    refine Or.inl ⟨host, port, ?_⟩
    rw [step_begin]
    have place : (crowd.step (.look host port)).acquisitions[crowd.acquisitions.length]? =
        some stage := by rw [looked, List.getElem?_concat_length]
    rcases acquisitions_discard (crowd.step (.look host port)) crowd.acquisitions.length with
      same | ⟨address, channel, waits, next⟩
    · exact ⟨stage, rfl, by rw [same, looked], settled⟩
    · rw [place] at waits
      cases waits
      refine ⟨.dialing address, rfl, ?_, settled⟩
      rw [next, looked, List.set_append_right _ _ (Nat.le_refl _), Nat.sub_self, List.set_cons_zero]
  | discard place =>
    refine Or.inr ⟨rfl, ?_⟩
    rcases acquisitions_discard crowd place with same | ⟨address, channel, waits, next⟩
    · exact Or.inl same
    · exact Or.inr (Or.inl ⟨place, address, channel, waits, next⟩)
  | dialed place result =>
    refine Or.inr ⟨rfl, ?_⟩
    simp only [step]
    split
    · rename_i address waits
      exact Or.inr (Or.inr ⟨place, address, waits, rfl⟩)
    · exact Or.inl rfl
  | _ => exact Or.inr ⟨rfl, Or.inl rfl⟩

/-- What is still to be done for an acquisition before its end, and what is done by a turn. -/
theorem stage_step {crowd : Crowd γ} {place : Nat} {stage : Stage}
    (reached : crowd.acquisitions[place]? = some stage) (turn : Turn γ) :
    (crowd.step turn).acquisitions[place]? = some stage ∨
      (∃ address channel, stage = .discarding address channel ∧
        (crowd.step turn).acquisitions[place]? = some (.dialing address)) ∨
      ∃ address, stage = .dialing address ∧
        (crowd.step turn).acquisitions[place]? = some .done := by
  have inside : place < crowd.acquisitions.length := (List.getElem?_eq_some_iff.mp reached).1
  have after (other : Nat) (next : Stage) :
      (crowd.acquisitions.set other next)[place]? =
        if other = place then some next else some stage := by
    rw [List.getElem?_set, reached]
    split
    · rename_i here
      rw [here, if_pos inside]
    · rfl
  rcases acquisitions_step crowd turn with ⟨host, port, first, -, same, -⟩ |
    ⟨-, same | ⟨other, address, channel, waits, same⟩ | ⟨other, address, waits, same⟩⟩
  all_goals rw [same]
  · exact Or.inl (by rw [List.getElem?_append_left inside, reached])
  · exact Or.inl reached
  · rw [after]
    split
    · rename_i here
      subst here
      rw [reached] at waits
      cases waits
      exact Or.inr (Or.inl ⟨address, channel, rfl, rfl⟩)
    · exact Or.inl rfl
  · rw [after]
    split
    · rename_i here
      subst here
      rw [reached] at waits
      cases waits
      exact Or.inr (Or.inr ⟨address, rfl, rfl⟩)
    · exact Or.inl rfl

/-- An acquisition dials an address in the course of a run, or is about to when the run ends. -/
def Dials (crowd : Crowd γ) (turns : List (Turn γ)) (place : Nat) (address : String) : Prop :=
  (∃ first rest, turns = first ++ rest ∧
    (crowd.run first).acquisitions[place]? = some (.dialing address)) ∨
  ∃ channel, (crowd.run turns).acquisitions[place]? = some (.discarding address channel)

/-- An acquisition dials the address that it has still to dial, and no other. -/
theorem dials_iff {crowd : Crowd γ} {place : Nat} {stage : Stage} {address : String}
    (reached : crowd.acquisitions[place]? = some stage) (turns : List (Turn γ)) :
    crowd.Dials turns place address ↔ stage.target? = some address := by
  induction turns generalizing crowd stage with
  | nil =>
    constructor
    · rintro (⟨first, rest, parts, dialing⟩ | ⟨channel, discarding⟩)
      · cases (List.append_eq_nil_iff.mp parts.symm).1
        rw [run, List.foldl_nil, reached] at dialing
        cases dialing
        rfl
      · rw [run, List.foldl_nil, reached] at discarding
        cases discarding
        rfl
    · intro target
      cases stage with
      | done => cases target
      | dialing own =>
        cases target
        exact Or.inl ⟨[], [], rfl, reached⟩
      | discarding own channel =>
        cases target
        exact Or.inr ⟨channel, reached⟩
  | cons turn rest ih =>
    have split : crowd.Dials (turn :: rest) place address ↔
        stage = .dialing address ∨ (crowd.step turn).Dials rest place address := by
      constructor
      · rintro (⟨first, later, parts, dialing⟩ | discarding)
        · cases first with
          | nil =>
            rw [run, List.foldl_nil, reached] at dialing
            exact Or.inl (Option.some.inj dialing)
          | cons other first =>
            rw [List.cons_append, List.cons.injEq] at parts
            obtain ⟨rfl, parts⟩ := parts
            exact Or.inr (Or.inl ⟨first, later, parts, dialing⟩)
        · exact Or.inr (Or.inr discarding)
      · rintro (rfl | ⟨first, later, parts, dialing⟩ | discarding)
        · exact Or.inl ⟨[], turn :: rest, rfl, reached⟩
        · exact Or.inl ⟨turn :: first, later, by rw [parts, List.cons_append], dialing⟩
        · exact Or.inr discarding
    rw [split]
    rcases stage_step reached turn with same | ⟨own, channel, rfl, next⟩ | ⟨own, rfl, next⟩
    · rw [ih same]
      refine or_iff_right_of_imp ?_
      rintro rfl
      rfl
    · rw [ih next]
      exact or_iff_right nofun
    · rw [ih next]
      constructor
      · rintro (isDialing | wrong)
        · cases isDialing
          rfl
        · cases wrong
      · intro target
        cases target
        exact Or.inl rfl

/-- An acquisition dials the address that it asks for exactly if nothing there is fit for use. -/
theorem dials_iff_unfit {crowd : Crowd γ} {turn : Turn γ} {host port : String}
    (begins : turn.request? = some (host, port)) (later : List (Turn γ)) (address : String) :
    (crowd.step turn).Dials later crowd.acquisitions.length address ↔
      addressOf host port = address ∧ host ≠ "" ∧ port ≠ "" ∧ crowd.Unfit address := by
  rcases acquisitions_step crowd turn with ⟨_, _, stage, asks, same, settled⟩ | ⟨nothing, -⟩
  · rw [begins] at asks
    cases asks
    rw [← settled address]
    refine dials_iff ?_ later
    rw [same, List.getElem?_concat_length]
  · rw [begins] at nothing
    cases nothing

/-! ## What dials are for -/

/-- The acquisitions of a crowd are those of some requests, and each dials for its own. -/
structure Asked (asked : List (String × String)) (crowd : Crowd γ) : Prop where
  sameLength : crowd.acquisitions.length = asked.length
  asks : ∀ {place : Nat} {stage : Stage} {address : String},
    crowd.acquisitions[place]? = some stage → stage.target? = some address →
    ∃ host port, asked[place]? = some (host, port) ∧ addressOf host port = address

theorem asked_step {crowd : Crowd γ} {asked : List (String × String)}
    (kept : Asked asked crowd) (turn : Turn γ) :
    Asked (asked ++ turn.request?.toList) (crowd.step turn) := by
  rcases acquisitions_step crowd turn with ⟨host, port, first, begins, same, settled⟩ |
    ⟨nothing, next⟩
  · rw [begins, Option.toList_some]
    constructor
    · rw [same, List.length_append, List.length_append, kept.sameLength]
      rfl
    · intro place stage address reached target
      rw [same] at reached
      rw [List.getElem?_append, kept.sameLength] at reached
      rw [List.getElem?_append]
      split at reached
      · rename_i inside
        rw [if_pos inside]
        exact kept.asks reached target
      · rename_i outside
        rw [List.getElem?_singleton, Option.ite_none_right_eq_some] at reached
        obtain ⟨isNew, isFirst⟩ := reached
        cases isFirst
        rw [if_neg outside, isNew]
        exact ⟨host, port, rfl, ((settled address).mp target).1⟩
  · rw [nothing, Option.toList_none, List.append_nil]
    -- a stage is replaced by one with the same target, or with none
    have replaced {place : Nat} (old new : Stage) (was : crowd.acquisitions[place]? = some old)
        (sameTarget : ∀ address, new.target? = some address → old.target? = some address)
        (same : (crowd.step turn).acquisitions = crowd.acquisitions.set place new) :
        Asked asked (crowd.step turn) := by
      constructor
      · rw [same, List.length_set, kept.sameLength]
      · intro other stage address reached target
        rw [same, List.getElem?_set] at reached
        split at reached
        · rename_i here
          subst here
          rw [if_pos (List.getElem?_eq_some_iff.mp was).1] at reached
          cases reached
          exact kept.asks was (sameTarget address target)
        · exact kept.asks reached target
    rcases next with same | ⟨place, address, channel, waits, same⟩ |
      ⟨place, address, waits, same⟩
    · exact ⟨same ▸ kept.sameLength, same ▸ kept.asks⟩
    · exact replaced (.discarding address channel) (.dialing address) waits (fun _ => id) same
    · exact replaced (.dialing address) .done waits nofun same

theorem asked_run {crowd : Crowd γ} {asked : List (String × String)}
    (kept : Asked asked crowd) (turns : List (Turn γ)) :
    Asked (asked ++ requests turns) (crowd.run turns) := by
  induction turns generalizing crowd asked with
  | nil =>
    rw [requests, List.filterMap_nil, List.append_nil]
    exact kept
  | cons turn rest ih =>
    have next := ih (asked_step kept turn)
    rw [List.append_assoc, ← requests_cons] at next
    exact next

end Crowd

end Pool

end Gatehouse
