import Gatehouse.Proofs.Wire.Grammar
import Gatehouse.Wire.Envelope

/-!
Byte strings of messages that are put one behind the other.

A message can be laid on top of another: what it has set covers what is below, its maps cover the
map below key by key, and a message inside it is laid on top of the one below it. Adding a field to
the upper message is the same as adding it to both, so that two byte strings in a row hold the
second message on top of the first. A field whose number is not declared changes nothing, wherever
it stands.
-/

namespace Gatehouse

open Wire

namespace Wire.Message

variable {α : Type} [Message α]

/-- A way of laying a message on top of another with which fields can be added before or after. -/
structure Overlays (lay : α → α → α) : Prop where
  empty : ∀ below, lay below empty = below
  merge : ∀ depth below above field,
    merge depth (lay below above) field = (merge depth above field).map (lay below)

namespace Overlays

variable {lay : α → α → α} (lawful : Overlays lay)
include lawful

theorem mergeFields (depth : Nat) (below above : α) (row : List Field) :
    mergeFields depth (lay below above) row =
      (Message.mergeFields depth above row).map (lay below) := by
  induction row generalizing above with
  | nil => rfl
  | cons field row ih =>
    rw [Message.mergeFields, Message.mergeFields, List.foldlM_cons, List.foldlM_cons,
      lawful.merge]
    cases Message.merge depth above field with
    | none => rfl
    | some above => exact ih above

theorem mergeBytes (depth : Nat) (below above : α) (bytes : Bytes) :
    mergeBytes depth (lay below above) bytes =
      (Message.mergeBytes depth above bytes).map (lay below) := by
  rw [Message.mergeBytes, Message.mergeBytes]
  cases Field.read depth bytes with
  | none => rfl
  | some row => exact lawful.mergeFields depth below above row

/-- A part of a message that may be unset, in either of the two messages. -/
theorem mergePart (depth : Nat) (below above : Option α) (bytes : Bytes) :
    mergePart depth (Option.merge lay below above) bytes =
      (Message.mergePart depth above bytes).map (Option.merge lay below) := by
  cases below with
  | none =>
    have same (part : Option α) : Option.merge lay none part = part := by
      cases part <;> rfl
    rw [same, funext same]
    exact Option.map_id'.symm
  | some below =>
    have covered : (Option.merge lay (some below) above).getD Message.empty =
        lay below (above.getD Message.empty) := by
      cases above with
      | none => exact (lawful.empty below).symm
      | some above => rfl
    rw [Message.mergePart, Message.mergePart, covered, lawful.mergeBytes, Option.map_map,
      Option.map_map]
    rfl

theorem decode_append {x y : Bytes} {a b : α} (first : decode x = some a)
    (second : decode y = some b) : decode (x ++ y) = some (lay a b) := by
  obtain ⟨row, spelled, merged⟩ := Option.bind_eq_some_iff.mp first
  obtain ⟨others, alsoSpelled, alsoMerged⟩ := Option.bind_eq_some_iff.mp second
  have all : Field.read maxDepth (x ++ y) = some (row ++ others) :=
    Field.read_eq_some_iff.mpr
      ((Field.read_eq_some_iff.mp spelled).append (Field.read_eq_some_iff.mp alsoSpelled))
  rw [decode, Message.mergeBytes, all, Option.bind_some, mergeFields_append, merged,
    Option.bind_some]
  have onto := lawful.mergeFields maxDepth a Message.empty others
  rw [lawful.empty, alsoMerged] at onto
  exact onto

end Overlays

/-- A type of messages none of whose declared numbers is above `last`. -/
def Declares (α : Type) [Message α] (last : Nat) : Prop :=
  ∀ (depth : Nat) (message : α) (field : Field), last < field.number →
    merge depth message field = some message

namespace Declares

variable {last : Nat} (declared : Declares α last)
include declared

theorem mergeFields {row : List Field} (undeclared : ∀ field ∈ row, last < field.number)
    (depth : Nat) (message : α) : mergeFields depth message row = some message := by
  induction row with
  | nil => rfl
  | cons field row ih =>
    rw [Message.mergeFields, List.foldlM_cons,
      declared depth message field (undeclared field List.mem_cons_self)]
    exact ih fun other member => undeclared other (List.mem_cons_of_mem _ member)

theorem decode {bytes : Bytes} {row : List Field} (spelled : Spells maxDepth bytes row)
    (undeclared : ∀ field ∈ row, last < field.number) :
    decode bytes = some (empty : α) := by
  rw [Message.decode, mergeBytes, Field.read_eq_some_iff.mpr spelled]
  exact declared.mergeFields undeclared maxDepth empty

theorem mergeBytes_between {depth : Nat} {before between after : Bytes}
    {rowBefore row rowAfter : List Field} (spelledBefore : Spells depth before rowBefore)
    (spelled : Spells depth between row) (spelledAfter : Spells depth after rowAfter)
    (undeclared : ∀ field ∈ row, last < field.number) (message : α) :
    mergeBytes depth message (before ++ (between ++ after)) =
      mergeBytes depth message (before ++ after) := by
  have more := Field.read_eq_some_iff.mpr (spelledBefore.append (spelled.append spelledAfter))
  have less := Field.read_eq_some_iff.mpr (spelledBefore.append spelledAfter)
  rw [mergeBytes, mergeBytes, more, less, Option.bind_some, Option.bind_some, mergeFields_append,
    mergeFields_append]
  congr 1
  funext middle
  rw [mergeFields_append, declared.mergeFields undeclared, Option.bind_some]

end Declares

/-- Messages of which byte strings can be put one behind the other.

What two byte strings hold is then held by both together, the second on top of the first. A row of
fields with numbers above `last` holds nothing, and put between the fields of a message it changes
nothing, whether that message is decoded by itself or as a part of another. -/
structure Concatenates (lay : α → α → α) (last : Nat) : Prop where
  append : ∀ {x y : Bytes} {a b : α}, decode x = some a → decode y = some b →
    decode (x ++ y) = some (lay a b)
  undeclared : ∀ {bytes : Bytes} {row : List Field}, Spells maxDepth bytes row →
    (∀ field ∈ row, last < field.number) → decode bytes = some (empty : α)
  between : ∀ {depth : Nat} {before between after : Bytes} {rowBefore row rowAfter : List Field},
    Spells depth before rowBefore → Spells depth between row → Spells depth after rowAfter →
    (∀ field ∈ row, last < field.number) → ∀ message : α,
    mergeBytes depth message (before ++ (between ++ after)) =
      mergeBytes depth message (before ++ after)

theorem Overlays.concatenates {lay : α → α → α} {last : Nat} (lawful : Overlays lay)
    (declared : Declares α last) : Concatenates lay last where
  append := lawful.decode_append
  undeclared := declared.decode
  between := declared.mergeBytes_between

end Wire.Message

/-! ## The messages on top of one another -/

/-- A map of texts on top of another. -/
def StringMap.overlay (below above : StringMap) : StringMap where
  entries := below.entries.merge above.entries

/-- An inner call on top of another. -/
def InnerCall.overlay (below above : InnerCall) : InnerCall where
  param := above.param.or below.param
  method := above.method.or below.method
  args := below.args.merge above.args

/-- An envelope on top of another. -/
def Envelope.overlay (below above : Envelope) : Envelope where
  module := above.module.or below.module
  param := above.param.or below.param
  paramId := above.paramId.or below.paramId
  action := above.action.or below.action
  args := below.args.merge above.args
  path := above.path.or below.path
  token := above.token.or below.token
  sign := above.sign.or below.sign
  ip := above.ip.or below.ip
  userAgent := above.userAgent.or below.userAgent
  tokenType := above.tokenType.or below.tokenType
  timestamp := above.timestamp.or below.timestamp
  language := above.language.or below.language
  apiVersion := above.apiVersion.or below.apiVersion
  method := above.method.or below.method
  uid := above.uid.or below.uid
  isAdmin := above.isAdmin.or below.isAdmin
  sessionEnd := above.sessionEnd.or below.sessionEnd
  completed := above.completed.or below.completed
  readonly := above.readonly.or below.readonly
  inner := Option.merge InnerCall.overlay below.inner above.inner

/-- A reply on top of another. -/
def Reply.overlay (below above : Reply) : Reply where
  data := below.data.merge above.data
  back := Option.merge Envelope.overlay below.back above.back

/-! ## Members -/

/-- A payload that is added to the upper message is added to both. -/
theorem bind_overlay {α β : Type} {add addBoth : β → Option α} {lay : α → α}
    (covers : ∀ value, addBoth value = (add value).map lay) (payload : Option β) :
    payload.bind addBoth = (payload.bind add).map lay := by
  rw [Option.map_bind, funext covers]
  rfl

theorem map_overlay {α β : Type} {set setBoth : β → α} {lay : α → α}
    (covers : ∀ value, setBoth value = lay (set value)) (payload : Option β) :
    payload.map setBoth = (payload.map set).map lay := by
  rw [Option.map_map, funext covers]
  rfl

/-- An entry of a map covers what is below, whatever it is added to. -/
theorem mergeEntry_merge (depth : Nat) (below above : Dict Any) (field : Field) :
    mergeEntry depth (below.merge above) field =
      (mergeEntry depth above field).map below.merge := by
  refine bind_overlay (fun bytes => bind_overlay (fun entry => ?_) _) _
  exact congrArg some (Dict.merge_insert below above entry.key entry.value).symm

theorem StringMap.overlays : Message.Overlays StringMap.overlay where
  empty _ := rfl
  merge depth below above field := by
    simp only [Message.merge]
    split
    case h_1 =>
      refine bind_overlay (fun bytes => bind_overlay (fun entry => ?_) _) _
      have inserted := Dict.merge_insert below.entries above.entries entry.key entry.value
      exact congrArg (fun entries => some (StringMap.mk entries)) inserted.symm
    case h_2 => rfl

theorem InnerCall.overlays : Message.Overlays InnerCall.overlay where
  empty _ := rfl
  merge depth below above field := by
    simp only [Message.merge]
    split
    case h_3 =>
      change Option.map _ (mergeEntry depth (below.args.merge above.args) field) = _
      rw [mergeEntry_merge, Option.map_map]
      refine map_overlay (fun args => ?_) _
      rfl
    case h_4 => rfl
    all_goals
      refine map_overlay (fun value => ?_) _
      rfl

theorem Envelope.overlays : Message.Overlays Envelope.overlay where
  empty _ := by
    simp only [overlay, Message.empty, Option.merge_none_right]
    rfl
  merge depth below above field := by
    simp only [Message.merge]
    split
    case h_5 =>
      change Option.map _ (mergeEntry depth (below.args.merge above.args) field) = _
      rw [mergeEntry_merge, Option.map_map]
      refine map_overlay (fun args => ?_) _
      rfl
    case h_21 =>
      refine bind_overlay (fun bytes => ?_) _
      change (Message.mergePart _ (Option.merge _ _ _) bytes).bind _ = _
      rw [InnerCall.overlays.mergePart, Option.bind_map]
      refine bind_overlay (fun inner => ?_) _
      rfl
    case h_22 => rfl
    all_goals
      refine map_overlay (fun value => ?_) _
      rfl

theorem Reply.overlays : Message.Overlays Reply.overlay where
  empty _ := by
    simp only [overlay, Message.empty, Option.merge_none_right]
    rfl
  merge depth below above field := by
    simp only [Message.merge]
    split
    case h_1 =>
      change Option.map _ (mergeEntry depth (below.data.merge above.data) field) = _
      rw [mergeEntry_merge, Option.map_map]
      refine map_overlay (fun data => ?_) _
      rfl
    case h_2 =>
      refine bind_overlay (fun bytes => ?_) _
      change (Message.mergePart _ (Option.merge _ _ _) bytes).bind _ = _
      rw [Envelope.overlays.mergePart, Option.bind_map]
      refine bind_overlay (fun back => ?_) _
      rfl
    case h_3 => rfl

/-! ## The declared numbers -/

theorem StringMap.declares : Message.Declares StringMap 1 := by
  intro depth map field undeclared
  simp only [Message.merge]
  split
  case h_2 => rfl
  all_goals omega

theorem InnerCall.declares : Message.Declares InnerCall 3 := by
  intro depth call field undeclared
  simp only [Message.merge]
  split
  case h_4 => rfl
  all_goals omega

theorem Envelope.declares : Message.Declares Envelope 21 := by
  intro depth e field undeclared
  simp only [Message.merge]
  split
  case h_22 => rfl
  all_goals omega

theorem Reply.declares : Message.Declares Reply 2 := by
  intro depth reply field undeclared
  simp only [Message.merge]
  split
  case h_3 => rfl
  all_goals omega

/-! ## The family -/

/-- Byte strings of messages can be put one behind the other.

What they hold is then held together, the later message on top of the earlier one: a single value is
the later one if that is set, a map is overridden key by key, and an inner call or an envelope sent
back is laid on top of the one before. Fields with undeclared numbers, whatever their payloads, hold
nothing and can stand between any others. -/
theorem family_concatenates :
    Message.Concatenates Envelope.overlay 21 ∧ Message.Concatenates InnerCall.overlay 3 ∧
    Message.Concatenates Reply.overlay 2 ∧ Message.Concatenates StringMap.overlay 1 :=
  ⟨Envelope.overlays.concatenates Envelope.declares,
    InnerCall.overlays.concatenates InnerCall.declares,
    Reply.overlays.concatenates Reply.declares,
    StringMap.overlays.concatenates StringMap.declares⟩

/-- A reply behind another: a group that is not declared, an envelope under a number in two groups
of bits, and an entry of which everything is left out. -/
theorem family_concatenates_replies :
    let call : InnerCall := { param := some "lookup" }
    let first : Reply :=
      { data := Dict.ofList [("", ⟨"t", [1]⟩), ("k", ⟨"t", [2]⟩)],
        back := some { param := some "", token := some "old", inner := some call } }
    let x := Message.encode first
    let y : Bytes := [43, 13, 1, 2, 3, 4, 44, 0x92, 0, 0x83, 0, 58, 1, 120, 10, 0]
    let second : Reply :=
      { data := Dict.ofList [("", ⟨"", []⟩)], back := some { token := some "x" } }
    let both : Reply :=
      { data := Dict.ofList [("", ⟨"", []⟩), ("k", ⟨"t", [2]⟩)],
        back := some { param := some "", token := some "x", inner := some call } }
    Message.decode x = some first ∧ Message.decode y = some second ∧
      Message.decode (x ++ y) = some (first.overlay second) ∧ first.overlay second = both := by
  intro call first x y second both
  have decodedFirst : Message.decode x = some first := by decide +kernel
  have decodedSecond : Message.decode y = some second := by decide +kernel
  exact ⟨decodedFirst, decodedSecond,
    family_concatenates.2.2.1.append decodedFirst decodedSecond, by decide +kernel⟩

end Gatehouse
