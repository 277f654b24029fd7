import Gatehouse.Proofs.Forward.Sends

/-!
No channel is refused for want of an address.

The pool refuses a channel to an empty host or port. There are two ways to the pool: to the address
of the coordinator, which is read from the table, and to the address of a service, which has been
resolved. To say that the refusal is never met, the way of acquiring channels is replaced by any
other one: if the two agree on addresses that are whole, nothing else can be told apart.
-/

namespace Gatehouse

open Registry

/-- The pool refuses nothing but empty hosts and ports. -/
theorem Pool.beginAcquire_ne_refused {γ : Type} (pool : Pool γ) {location : Location}
    (whole : location.Whole) (now : Nat) (fault : Fault) :
    (pool.beginAcquire location.host location.port now).1 ≠ .refused fault := by
  have full := isEmpty_or_eq_false_iff.mpr ⟨whole.host, whole.port⟩
  unfold beginAcquire
  dsimp only
  rw [if_neg full]
  split <;> exact nofun

/-- Steps that do just what others do, as long as all addresses in the cache are whole. They keep it
so, and what they come to is good. -/
def Alike {α σ : Type} (good : α → Prop) (steps other : Timed (Client σ) α) : Prop :=
  ∀ (limit : Option Nat) (now : Nat) (client : Client σ), client.registry.AllWhole →
    other limit now client = steps limit now client ∧
    (steps limit now client).2.registry.AllWhole ∧
    ∀ ended value, (steps limit now client).1 = some (ended, value) → good value

theorem Alike.of_does {α σ : Type} {good : α → Prop} {steps other : Timed (Client σ) α}
    (does : ∀ start : Stage σ, start.2.registry.AllWhole →
      Does (fun _ _ => True) start good steps)
    (same : ∀ limit now client, client.registry.AllWhole →
      other limit now client = steps limit now client) : Alike good steps other := by
  intro limit now client allWhole
  obtain ⟨last, acts, -, ends⟩ := does (now, client) allWhole limit
  exact ⟨same limit now client allWhole, Acts.allWhole acts allWhole,
    fun ended value isEnd => (ends ended value isEnd).2⟩

namespace Forwarder

variable {α β σ : Type} {f : Forwarder α σ}

theorem does_resolve_sound (service : String) {start : Stage σ}
    (allWhole : start.2.registry.AllWhole) :
    Does (fun _ _ => True) start IsSound (f.resolve service) :=
  (f.does_resolve (fun _ _ _ => trivial) service).imp fun _ sound => sound allWhole

section Acquiring

variable {acquire : Acquiring σ}
  (same : ∀ host port, host ≠ "" → port ≠ "" → acquire host port = f.acquire host port)
include same

theorem resolveBy_eq (service : String) : f.resolveBy acquire service = f.resolve service := by
  refine f.resolveBy_congr (fun name service coordinator whole => ?_) service
  unfold askBy
  rw [same _ _ whole.host whole.port]

variable {limit : Option Nat} {now : Nat} {client : Client σ}

theorem connectBy_eq (service : String) (allWhole : client.registry.AllWhole) :
    f.connectBy acquire service limit now client = f.connect service limit now client := by
  obtain ⟨last, acts, -, ends⟩ :=
    f.does_resolve_sound service (show Registry.AllWhole (now, client).2.registry from allWhole)
      limit
  change Timed.bind (f.resolveBy acquire service) _ limit now client =
    Timed.bind (f.resolve service) _ limit now client
  rw [resolveBy_eq same]
  unfold Timed.bind
  dsimp only at ends
  rcases resolving : f.resolve service limit now client with ⟨_ | ⟨ended, fault | location⟩, after⟩
  · rfl
  · rfl
  · rw [resolving] at ends
    have whole := (ends ended _ rfl).2 location rfl
    dsimp only
    rw [same _ _ whole.host whole.port]

theorem overConnection_eq (context : CallContext) (service : String)
    (timeout : ServiceTable → String → Nat) (work : Nat → Timed (Client σ) (Except Fault β))
    (allWhole : client.registry.AllWhole) :
    f.overConnection acquire context service timeout work limit now client =
      f.overConnection f.acquire context service timeout work limit now client := by
  change Timed.bind (f.connectBy acquire service) _ limit now client =
    Timed.bind (f.connect service) _ limit now client
  unfold Timed.bind
  rw [connectBy_eq same service allWhole]

theorem alike_resolve (service : String) :
    Alike IsSound (f.resolve service) (f.resolveBy acquire service) := by
  rw [resolveBy_eq same]
  exact .of_does (fun _ allWhole => f.does_resolve_sound service allWhole) fun _ _ _ _ => rfl

theorem alike_upload (context : CallContext) (service : String) (template : Envelope)
    (source : Upload.Source) :
    Alike (fun _ => True) (f.upload context service template source)
      (f.uploadBy acquire context service template source) :=
  .of_does
    (fun _ _ => f.does_upload context service source (fun _ _ _ => trivial) fun _ _ _ => trivial)
    fun _ _ _ => overConnection_eq same context service _ _

theorem alike_call [Quantity α] (context : CallContext) (service method : String)
    (request : Envelope) :
    Alike (fun _ => True) (f.call context service method request)
      (f.callBy acquire context service method request) :=
  .of_does
    (fun _ _ => f.does_call context service method (fun _ _ _ => trivial) fun _ => trivial)
    fun _ _ _ => overConnection_eq same context service _ _

end Acquiring

end Forwarder

/-! ## The whole registry -/

/-- No address is ever without a host or a port.

Callers may find addresses, refreshes go on, and tables be replaced, by tables with any rows, in any
order, and the coordinator may reply whatever it likes. Whatever the cache has then, and whatever
address a caller gets by one more turn, be it too old, has a host and a port. It was found by a
lookup of the service, in a row of the table or in a reply without a code. The pool refuses no
channel to such an address. And where the cache has only such addresses, no address, call or upload
depends on what the pool does about an empty host or port, neither on the way to the service nor on
the way to the coordinator: channels can be acquired in any way that agrees with the one there is on
all other hosts and ports. -/
theorem addresses_whole {registry : Registry} (now : Nat) (empty : registry.cache = ∅)
    {turns : List Turn} (replies : ∀ turn ∈ turns, turn.Replies) :
    let office := Office.run { now, registry } turns
    office.registry.AllWhole ∧
    (∀ service location, office.registry.cache.get? service = some location →
      office.Traces service location) ∧
    (∀ turn outcome info, (office.step turn).2 = some outcome → outcome.result = .ok info →
      office.Traces outcome.service info) ∧
    (∀ {γ : Type} (pool : Pool γ) (location : Location) moment fault, location.Whole →
      (pool.beginAcquire location.host location.port moment).1 ≠ .refused fault) ∧
    ∀ {α σ : Type} [Quantity α] (f : Forwarder α σ),
      (f.resolveBy f.acquire = f.resolve ∧ f.callBy f.acquire = f.call ∧
        f.uploadBy f.acquire = f.upload) ∧
      ∀ acquire : Forwarder.Acquiring σ,
        (∀ host port, host ≠ "" → port ≠ "" → acquire host port = f.acquire host port) →
        (∀ service, Alike Forwarder.IsSound (f.resolve service) (f.resolveBy acquire service)) ∧
        (∀ context service method request, Alike (fun _ => True)
          (f.call context service method request)
          (f.callBy acquire context service method request)) ∧
        ∀ context service template source, Alike (fun _ => True)
          (f.upload context service template source)
          (f.uploadBy acquire context service template source) := by
  intro office
  have start : Office.Honest { now, registry } := ⟨Office.onTime_start now empty, nofun⟩
  have honest : office.Honest := start.run replies
  refine ⟨fun service location kept => (honest.cached kept).1,
    fun service location kept => honest.cached kept,
    fun turn outcome info returned result => honest.returned returned result,
    fun pool location moment fault whole => pool.beginAcquire_ne_refused whole moment fault, ?_⟩
  intro α σ _ f
  refine ⟨⟨rfl, rfl, rfl⟩, fun acquire same => ?_⟩
  exact ⟨Forwarder.alike_resolve same, Forwarder.alike_call same, Forwarder.alike_upload same⟩

/-- A reply gives an address with a number for a port. Ten later the table has a row without a host
and the reply has a code, so that the address is handed out once more. -/
theorem addresses_whole_stale :
    let registry : Registry := {
      mode := .coordinator "master"
      settings := ⟨10, 5, 3, 7, 20⟩
      table := Dict.insert ∅ "master" { host := "10.0.0.1", port := "7000" } }
    let data := argsOfMembers [("host", .str "10.0.1.1"), ("port", .ofNat 7001)]
    let coded := data.insert "httpcode" (Any.ofJson (.ofNat 404))
    let found : Answer := .ofReply "reports" (some 0) (.ok data)
    let refused : Answer := .ofReply "reports" (some 1) (.ok coded)
    let turns : List Turn := [.resolve "reports" found, .resolved 0, .pass 10,
      .reload (registry.table.insert "reports" { host := "", port := "1" }),
      .resolve "reports" refused, .pass 1]
    let office := Office.run { now := 0, registry } turns
    ∃ outcome info, (office.step (.resolved 0)).2 = some outcome ∧ outcome.result = .ok info ∧
      info = ⟨"10.0.1.1", "7001", false, 0⟩ ∧ office.Traces "reports" info := by
  intro registry data coded found refused turns office
  let info : Location := ⟨"10.0.1.1", "7001", false, 0⟩
  have given : (office.step (.resolved 0)).2.map (fun o => (o.service, o.result.toOption)) =
      some ("reports", some info) := by decide +kernel
  obtain ⟨outcome, returned, same⟩ := Option.map_eq_some_iff.mp given
  obtain ⟨service, result, own⟩ := outcome
  cases result with
  | error fault => cases same
  | ok location =>
    cases same
    have replies : ∀ turn ∈ turns, turn.Replies := by
      intro turn member answer brought
      simp only [turns, List.mem_cons, List.not_mem_nil, or_false] at member
      rcases member with rfl | rfl | rfl | rfl | rfl | rfl
      · cases brought
        exact ⟨_, _, _, rfl⟩
      · cases brought
      · cases brought
      · cases brought
      · cases brought
        exact ⟨_, _, _, rfl⟩
      · cases brought
    have whole := addresses_whole 0 (show registry.cache = ∅ from rfl) replies
    exact ⟨_, info, returned, rfl, rfl, whole.2.2.1 _ _ info returned rfl⟩

end Gatehouse
