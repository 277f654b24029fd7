import Gatehouse.Proofs.Json.Printing
import Gatehouse.Proofs.Wire.Family
import Gatehouse.Request.Arguments

/-!
The arguments of a body.

A body whose numbers are all integers loses nothing on its way to a backend: what the backend takes
from the arguments that it receives is the object that the body stands for, member by member.
-/

namespace Gatehouse

open Wire

/-! ## Values as arguments -/

theorem Any.json?_ofJson {v : Json} (short : v.bytes.length < 0x10000000000000000)
    (readable : Json.ofBytes? v.bytes = some v) : (Any.ofJson v).json? = some v := by
  have unpacked : Any.unpack? Any.bytesValueType (Any.ofJson v) = some (BytesValue.mk v.bytes) :=
    Any.unpack?_pack _ (BytesValue.decode_encode short)
  rw [Any.json?, unpacked]
  exact readable

theorem entries_argsOfMembers {members : List (String × Json)} (sorted : Entries.Sorted members) :
    (argsOfMembers members).entries = members.map fun m => (m.1, Any.ofJson m.2) :=
  Entries.ofList_eq_self (List.pairwise_map.mpr sorted)

/-- Members that can be read again as arguments are read as they are. -/
theorem membersOfArgs_argsOfMembers {members : List (String × Json)}
    (sorted : Entries.Sorted members)
    (readable : ∀ m ∈ members, (Any.ofJson m.2).json? = some m.2) :
    membersOfArgs (argsOfMembers members) = members := by
  rw [membersOfArgs, entries_argsOfMembers sorted, List.filterMap_map]
  clear sorted
  induction members with
  | nil => rfl
  | cons m rest ih =>
    have head : ((fun e : String × Any => e.2.json?.map fun value => (e.1, value)) ∘
        fun m : String × Json => (m.1, Any.ofJson m.2)) m = some m := by
      change ((Any.ofJson m.2).json?.map fun value => (m.1, value)) = some m
      rw [readable m List.mem_cons_self]
      rfl
    have later : ∀ e ∈ rest, (Any.ofJson e.2).json? = some e.2 := fun e member =>
      readable e (List.mem_cons_of_mem _ member)
    rw [List.filterMap_cons_some head, ih later]

namespace Request

/-! ## Bodies -/

/-- The members that a body stands for: none if it is blank, otherwise those of the object whose
text it is. -/
inductive BodyHolds (admitted : Json.Literal → Prop) : Bytes → List (String × Json) → Prop
  | blank {body : Bytes} : body.all Text.isAsciiBlank = true → BodyHolds admitted body []
  | object {text : String} {members : List (String × Json)} :
    (utf8 text).all Text.isAsciiBlank = false → Json.Holds admitted text.toList (.obj members) →
    BodyHolds admitted (utf8 text) members

theorem BodyHolds.anyNumber {admitted : Json.Literal → Prop} {body : Bytes}
    {members : List (String × Json)} (holds : BodyHolds admitted body members) :
    BodyHolds Json.anyNumber body members := by
  cases holds with
  | blank isBlank => exact .blank isBlank
  | object notBlank holds => exact .object notBlank holds.anyNumber

/-- The arguments of a body are the members that it stands for. -/
theorem jsonArgs_eq_ok_iff {body : Bytes} {args : Dict Any} :
    jsonArgs body = .ok args ↔
      ∃ members, BodyHolds Json.anyNumber body members ∧ args = argsOfMembers members := by
  constructor
  · intro accepted
    unfold jsonArgs at accepted
    split at accepted
    · rename_i isBlank
      cases accepted
      exact ⟨[], .blank isBlank, rfl⟩
    · rename_i notBlank
      split at accepted
      · rename_i members read
        cases accepted
        obtain ⟨text, isText, parsed⟩ := Option.bind_eq_some_iff.mp read
        rw [Bytes.eq_utf8_of_text? isText] at notBlank ⊢
        exact ⟨members, .object (Bool.eq_false_iff.mpr notBlank)
          (Json.ofChars?_eq_some_iff.mp parsed), rfl⟩
      · cases accepted
      · cases accepted
  · rintro ⟨members, holds, rfl⟩
    unfold jsonArgs
    cases holds with
    | blank isBlank =>
      rw [if_pos isBlank]
      rfl
    | @object text _ notBlank holds =>
      have read : Json.ofBytes? (utf8 text) = some (.obj members) := by
        rw [Json.ofBytes?, Bytes.text?_utf8]
        exact Json.ofChars?_eq_some_iff.mpr holds
      rw [if_neg (Bool.eq_false_iff.mp notBlank), read]

theorem BodyHolds.unique {body : Bytes} {members others : List (String × Json)}
    (holds : BodyHolds Json.anyNumber body members) (too : BodyHolds Json.anyNumber body others) :
    members = others := by
  generalize same : body = bytes at too
  cases holds with
  | blank isBlank =>
    cases too with
    | blank _ => rfl
    | object notBlank _ =>
      rw [same, notBlank] at isBlank
      cases isBlank
  | @object text _ notBlank holds =>
    cases too with
    | blank isBlank =>
      rw [same, isBlank] at notBlank
      cases notBlank
    | @object otherText _ _ too =>
      have sameText : some text = some otherText := by
        rw [← Bytes.text?_utf8, same, Bytes.text?_utf8]
      cases sameText
      exact Json.obj.inj (holds.unique too)

/-- The members of a body that holds integers only can be read again as arguments. -/
theorem BodyHolds.readable {body : Bytes} {members : List (String × Json)}
    (holds : BodyHolds Json.integersOnly body members) (fits : body.length < 0x8000000000000000) :
    Entries.Sorted members ∧ ∀ m ∈ members, (Any.ofJson m.2).json? = some m.2 := by
  cases holds with
  | blank _ => exact ⟨List.Pairwise.nil, nofun⟩
  | @object text _ _ holds =>
    obtain ⟨sorted, each⟩ := holds.prints_members
    refine ⟨sorted, fun m member => ?_⟩
    obtain ⟨again, short⟩ := each m member
    exact Any.json?_ofJson (by omega) again

/-- No argument of a body is lost.

A body is taken exactly if it is blank or the text of an object. Where all its numbers are integers,
every member is packed so that it can be read again, and the members that are read from the
arguments are those of the body and no others. The same ones are read from them after they were sent
inside a request, in whatever order they were written there. The bounds are those of what a memory
of 64 bits holds. -/
theorem json_arguments_kept {body : Bytes} (fits : body.length < 0x8000000000000000) :
    ((∃ args, jsonArgs body = .ok args) ↔ ∃ members, BodyHolds Json.anyNumber body members) ∧
    ∀ members, BodyHolds Json.integersOnly body members →
      (∀ others, BodyHolds Json.anyNumber body others → others = members) ∧
      (∀ m ∈ members, (Any.ofJson m.2).json? = some m.2) ∧
      ∃ args, jsonArgs body = .ok args ∧ membersOfArgs args = members ∧
        ∀ (e : Envelope) (row : List Field), Envelope.Row { e with args } row →
          Message.encodedSize { e with args } < 0x10000000000000000 →
          ∃ received : Envelope, Message.decode (Field.encodeAll row) = some received ∧
            membersOfArgs received.args = members := by
  refine ⟨?_, fun members holds => ?_⟩
  · constructor
    · rintro ⟨args, accepted⟩
      obtain ⟨members, holds, -⟩ := jsonArgs_eq_ok_iff.mp accepted
      exact ⟨members, holds⟩
    · rintro ⟨members, holds⟩
      exact ⟨_, jsonArgs_eq_ok_iff.mpr ⟨members, holds, rfl⟩⟩
  · obtain ⟨sorted, readable⟩ := holds.readable fits
    have kept := membersOfArgs_argsOfMembers sorted readable
    refine ⟨fun others too => too.unique holds.anyNumber, readable, argsOfMembers members,
      jsonArgs_eq_ok_iff.mpr ⟨members, holds.anyNumber, rfl⟩, kept, ?_⟩
    intro e row written short
    have filled := Envelope.fills 96 written
    exact ⟨_, filled.mergeBytes (filled.plain short), kept⟩

/-- An object in which a name occurs twice, with an escaped character, a minus zero and an array in
it. -/
theorem json_arguments_kept_escaped :
    let body := utf8 (String.ofList ['\x7b', ' ', '"', 'k', '"', ':', '0', ',', '"', '\\', 'u', '0',
      '0', '6', 'b', '"', ':', '[', '-', '0', ']', '\x7d'])
    let members := [("k", Json.arr [.num (.double Double.zero.neg)])]
    body.length < 0x8000000000000000 ∧ BodyHolds Json.integersOnly body members ∧
      ∃ args, jsonArgs body = .ok args ∧ membersOfArgs args = members ∧
        Message.encodedSize ({ args } : Envelope) < 0x10000000000000000 ∧
        ∃ received : Envelope, Message.decode (Message.encode ({ args } : Envelope)) =
          some received ∧ membersOfArgs received.args = members := by
  intro body members
  have spelled : Json.Literal.minusZero.Spelled ['-', '0'] :=
    .parts (l := .minusZero) Json.wholeDigits_zero .absent .absent
  have minusZero : Json.Denotes Json.integersOnly 125 ['-', '0']
      (.value (.num (.double Double.zero.neg))) :=
    .double spelled (by decide +kernel) rfl
  have array : Json.Denotes Json.integersOnly 126 ['[', '-', '0', ']']
      (.value (.arr [.num (.double Double.zero.neg)])) :=
    .arr Json.blank_nil (.lastElement minusZero Json.blank_nil)
  have digits : Numeral.intDigits 0 = ['0'] := by decide +kernel
  have zero : Json.Denotes Json.integersOnly 126 ['0'] (.value (.num (.int 0))) :=
    digits ▸ .int (by decide) (by decide)
  have plainName : Json.Names ['"', 'k', '"', ':'] "k" := Json.names_quoted "k"
  have unit : Json.CodeUnit ['0', '0', '6', 'b'] 'k'.toNat := Json.hex4_eq_some_iff.mp (by decide)
  have escapedName : Json.Names ['"', '\\', 'u', '0', '0', '6', 'b', '"', ':'] "k" :=
    .quoted (.unit unit .nil) Json.blank_nil Json.blank_nil
  have written : Json.Denotes Json.integersOnly 126
      (['"', 'k', '"', ':'] ++ (['0'] ++ ([] ++ ',' :: ([] ++ (['"', '\\', 'u', '0', '0', '6', 'b',
        '"', ':'] ++ (['[', '-', '0', ']'] ++ ([] ++ ['\x7d'])))))))
      (.members [("k", .num (.int 0)), ("k", .arr [.num (.double Double.zero.neg)])]) :=
    .member plainName zero Json.blank_nil Json.blank_nil
      (.lastMember escapedName array Json.blank_nil)
  have blank : Json.Blank [' '] := fun c member => Or.inl (List.mem_singleton.mp member)
  have object := Json.Denotes.obj blank written (Json.membersOf_iff.mpr (rfl : members = _))
  have holds : BodyHolds Json.integersOnly body members := by
    refine .object (by decide +kernel) ?_
    rw [String.toList_ofList]
    exact .within Json.blank_nil Json.blank_nil object
  have fits : body.length < 0x8000000000000000 := by decide +kernel
  obtain ⟨args, accepted, kept, sent⟩ := ((json_arguments_kept fits).2 members holds).2.2
  have packed : args = argsOfMembers members :=
    Except.ok.inj (accepted.symm.trans (jsonArgs_eq_ok_iff.mpr ⟨members, holds.anyNumber, rfl⟩))
  have short : Message.encodedSize ({ args } : Envelope) < 0x10000000000000000 := by
    rw [packed]
    decide +kernel
  exact ⟨fits, holds, args, accepted, kept, short, sent {} _ (Envelope.row_fields _) short⟩

end Request

end Gatehouse
