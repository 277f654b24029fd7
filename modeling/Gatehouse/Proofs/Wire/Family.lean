import Gatehouse.Proofs.Wire.Packed
import Gatehouse.Wire.Envelope

/-!
Messages that are read back from every row they may be written in.

The members of a message are written in the order of their numbers, but the entries of a map in any
order, and so are those of the maps in the messages inside it. `Row` says which rows there are for a
message. Whichever is taken, it is as long as was computed beforehand and it is read as the message
it was written for. So no two messages share a row, not even if they differ only in a member that
one leaves unset and the other sets to the empty text.
-/

namespace Gatehouse

open Wire

/-! ## Maps of messages -/

theorem Any.fills (depth : Nat) (any : Any) :
    Fills depth ⟨"", []⟩ (Message.fields any) any (Message.encodedSize any) := by
  obtain ⟨typeUrl, value⟩ := any
  have named : Fills depth ⟨"", []⟩ (plainText 1 typeUrl) (⟨typeUrl, []⟩ : Any)
      (plainSize 1 typeUrl.utf8ByteSize) := by
    apply Fills.of_eq (.plainText (by decide) fun _ => rfl)
    rfl
  exact named.append (.plainBytes (by decide) fun _ => rfl)

theorem MapEntry.fills (depth : Nat) (entry : MapEntry Any) :
    Fills (depth + 2) ⟨"", Message.empty⟩ (Message.fields entry) entry
      (Message.encodedSize entry) := by
  obtain ⟨key, value⟩ := entry
  have keyed : Fills (depth + 2) ⟨"", Message.empty⟩ (plainText 1 key)
      (⟨key, Message.empty⟩ : MapEntry Any) (plainSize 1 key.utf8ByteSize) := by
    apply Fills.of_eq (.plainText (by decide) fun _ => rfl)
    rfl
  exact keyed.append (.plainPart (by decide) (Any.fills _ value) fun _ => rfl)

/-- The field of an entry. -/
def argField (number : Nat) (entry : String × Any) : Field :=
  .bytes number (Message.encode (MapEntry.mk entry.1 entry.2))

theorem Wire.Fills.map {α : Type} [Message α] {depth number : Nat} {map : Dict Any}
    {written : List (String × Any)} {set : Dict Any → α} (valid : IsNumber number)
    (perm : written.Perm map.entries)
    (merge : ∀ map bytes, Message.merge (depth + 3) (set map) (.bytes number bytes) =
      (mergeEntry (depth + 3) map (.bytes number bytes)).map set) :
    Fills (depth + 3) (set ∅) (written.map (argField number)) (set map) (mapSize number map) := by
  refine .entries (fun e => MapEntry.fills _ ⟨e.1, e.2⟩) (fun map bytes e read => ?_) valid perm
  have entry : mergeEntry (depth + 3) map (.bytes number bytes) = some (map.insert e.1 e.2) := by
    change (Message.mergeBytes (depth + 2) (Message.empty : MapEntry Any) bytes).bind _ = _
    rw [read]
    rfl
  rw [merge, entry, Option.map_some]

/-! ## Rows -/

def FileChunk.Row (chunk : FileChunk) (row : List Field) : Prop :=
  row = Message.fields chunk

def BytesValue.Row (value : BytesValue) (row : List Field) : Prop :=
  row = Message.fields value

def StringMap.Row (map : StringMap) (row : List Field) : Prop :=
  ∃ entries : List (String × String), entries.Perm map.entries.entries ∧
    row = entries.map entryField

def InnerCall.Row (call : InnerCall) (row : List Field) : Prop :=
  ∃ args : List (String × Any), args.Perm call.args.entries ∧
    row = textField 1 call.param ++ textField 2 call.method ++ args.map (argField 3)

def Envelope.Row (e : Envelope) (row : List Field) : Prop :=
  ∃ (args : List (String × Any)) (inner : Option (List Field)), args.Perm e.args.entries ∧
    Option.Rel InnerCall.Row e.inner inner ∧
    row = textField 1 e.module ++ textField 2 e.param ++ textField 3 e.paramId ++
      textField 4 e.action ++ args.map (argField 5) ++ textField 6 e.path ++ textField 7 e.token ++
      textField 8 e.sign ++ textField 9 e.ip ++ textField 10 e.userAgent ++
      textField 11 e.tokenType ++ int32Field 12 e.timestamp ++ textField 13 e.language ++
      textField 14 e.apiVersion ++ textField 15 e.method ++ textField 16 e.uid ++
      int32Field 17 e.isAdmin ++ int32Field 18 e.sessionEnd ++ int32Field 19 e.completed ++
      int32Field 20 e.readonly ++ partField 21 inner

def Reply.Row (reply : Reply) (row : List Field) : Prop :=
  ∃ (data : List (String × Any)) (back : Option (List Field)), data.Perm reply.data.entries ∧
    Option.Rel Envelope.Row reply.back back ∧
    row = data.map (argField 1) ++ partField 2 back

/-! ## Every row fills its message -/

theorem rel_imp {α β : Type} {r s : α → β → Prop} (imp : ∀ {a b}, r a b → s a b) {x : Option α}
    {y : Option β} (related : Option.Rel r x y) : Option.Rel s x y := by
  cases related with
  | none => exact .none
  | some related => exact .some (imp related)

theorem InnerCall.fills (depth : Nat) {call : InnerCall} {row : List Field}
    (written : call.Row row) : Fills (depth + 3) {} row call (Message.encodedSize call) := by
  obtain ⟨param, method, map⟩ := call
  obtain ⟨args, perm, same⟩ := written
  change args.Perm map.entries at perm
  rw [same]
  simp only [Message.encodedSize]
  apply Fills.append ?_ (.map (by decide) perm fun _ _ => rfl)
  apply Fills.append ?_ (.text (by decide) fun _ => rfl)
  apply Fills.of_eq (.text (by decide) fun _ => rfl)
  rfl

theorem Envelope.fills (depth : Nat) {e : Envelope} {row : List Field} (written : e.Row row) :
    Fills (depth + 4) {} row e (Message.encodedSize e) := by
  obtain ⟨module, param, paramId, action, map, path, token, sign, ip, userAgent, tokenType,
    timestamp, language, apiVersion, method, uid, isAdmin, sessionEnd, completed, readonly,
    call⟩ := e
  obtain ⟨args, inner, perm, parts, same⟩ := written
  change args.Perm map.entries at perm
  have filled := rel_imp (InnerCall.fills depth) parts
  rw [same]
  simp only [Message.encodedSize]
  -- The members are taken off from the last one on, with the rest unset.
  apply Fills.append ?_ (.part (by decide) filled fun _ => rfl)
  iterate 4 apply Fills.append ?_ (.int32 (by decide) fun _ => rfl)
  iterate 4 apply Fills.append ?_ (.text (by decide) fun _ => rfl)
  apply Fills.append ?_ (.int32 (by decide) fun _ => rfl)
  iterate 6 apply Fills.append ?_ (.text (by decide) fun _ => rfl)
  apply Fills.append ?_ (.map (by decide) perm fun _ _ => rfl)
  iterate 3 apply Fills.append ?_ (.text (by decide) fun _ => rfl)
  apply Fills.of_eq (.text (by decide) fun _ => rfl)
  rfl

theorem Reply.fills (depth : Nat) {reply : Reply} {row : List Field} (written : reply.Row row) :
    Fills (depth + 5) {} row reply (Message.encodedSize reply) := by
  obtain ⟨map, envelope⟩ := reply
  obtain ⟨data, back, perm, parts, same⟩ := written
  change data.Perm map.entries at perm
  have filled := rel_imp (Envelope.fills depth) parts
  rw [same]
  simp only [Message.encodedSize]
  apply Fills.append ?_ (.part (by decide) filled fun _ => rfl)
  apply Fills.of_eq (.map (by decide) perm fun _ _ => rfl)
  rfl

/-! ## What the encoder writes -/

theorem InnerCall.row_fields (call : InnerCall) : call.Row (Message.fields call) :=
  ⟨_, List.Perm.refl _, rfl⟩

theorem innerField_eq (inner : Option InnerCall) :
    innerField inner = partField 21 (inner.map Message.fields) := by
  cases inner <;> rfl

theorem rel_map {α β : Type} {r : α → β → Prop} {f : α → β} (related : ∀ a, r a (f a))
    (x : Option α) : Option.Rel r x (x.map f) := by
  cases x with
  | none => exact .none
  | some a => exact .some (related a)

theorem Envelope.row_fields (e : Envelope) : e.Row (Message.fields e) := by
  refine ⟨_, _, List.Perm.refl _, rel_map InnerCall.row_fields e.inner, ?_⟩
  rw [← innerField_eq]
  rfl

theorem backField_eq (back : Option Envelope) :
    backField back = partField 2 (back.map Message.fields) := by
  cases back <;> rfl

theorem Reply.row_fields (reply : Reply) : reply.Row (Message.fields reply) := by
  refine ⟨_, _, List.Perm.refl _, rel_map Envelope.row_fields reply.back, ?_⟩
  rw [← backField_eq]
  rfl

/-! ## Reading back -/

namespace Wire.Message

variable {α : Type} [Message α]

/-- Messages that are read back from every row in which they may be written, among which is the one
that the encoder writes. -/
structure ReadsBack (Row : α → List Field → Prop) : Prop where
  encodes : ∀ message, ∃ row, Row message row ∧ encode message = Field.encodeAll row
  length : ∀ {message row}, Row message row →
    (Field.encodeAll row).length = encodedSize message
  decode : ∀ {message row}, Row message row → encodedSize message < 0x10000000000000000 →
    decode (Field.encodeAll row) = some message
  distinct : ∀ {message other row otherRow}, Row message row → Row other otherRow →
    encodedSize message < 0x10000000000000000 →
    Field.encodeAll row = Field.encodeAll otherRow → message = other

theorem ReadsBack.of_fills {Row : α → List Field → Prop}
    (own : ∀ message, Row message (fields message))
    (fills : ∀ message row, Row message row →
      Fills maxDepth empty row message (encodedSize message)) : ReadsBack Row := by
  have decoded {message row} (written : Row message row)
      (fits : encodedSize message < 0x10000000000000000) :
      Message.decode (Field.encodeAll row) = some message :=
    (fills _ _ written).mergeBytes ((fills _ _ written).plain fits)
  refine ⟨fun message => ⟨_, own message, rfl⟩, fun written => (fills _ _ written).length, decoded,
    ?_⟩
  intro message other row otherRow written otherWritten fits same
  have sizes : encodedSize message = encodedSize other := by
    rw [← (fills _ _ written).length, same, (fills _ _ otherWritten).length]
  have first := decoded written fits
  rw [same, decoded otherWritten (sizes ▸ fits)] at first
  exact (Option.some.inj first).symm

end Wire.Message

/-- Whatever is sent or packed comes back.

Every message is read back from every row in which it may be written, as long as its length is a
number of 64 bits, and that length was computed beforehand. Two messages that are written as the
same bytes are equal, down to which of their members are unset and which are empty. -/
theorem family_reads_back :
    Message.ReadsBack Envelope.Row ∧ Message.ReadsBack InnerCall.Row ∧
    Message.ReadsBack Reply.Row ∧ Message.ReadsBack FileChunk.Row ∧
    Message.ReadsBack BytesValue.Row ∧ Message.ReadsBack StringMap.Row := by
  refine ⟨.of_fills Envelope.row_fields ?_, .of_fills InnerCall.row_fields ?_,
    .of_fills Reply.row_fields ?_, .of_fills (fun _ => rfl) ?_, .of_fills (fun _ => rfl) ?_,
    .of_fills (fun _ => ⟨_, List.Perm.refl _, rfl⟩) ?_⟩
  · exact fun _ _ written => Envelope.fills 96 written
  · exact fun _ _ written => InnerCall.fills 97 written
  · exact fun _ _ written => Reply.fills 95 written
  · rintro chunk row rfl
    exact FileChunk.fills 100 chunk
  · rintro value row rfl
    exact BytesValue.fills 100 value
  · rintro map row ⟨entries, perm, rfl⟩
    exact StringMap.fills 98 perm

/-- A reply whose map is written backwards, with empty names, texts and values in it. -/
theorem family_reads_back_backwards :
    let bound : List (String × Any) := [("", ⟨"", []⟩), ("key", ⟨"", [0]⟩)]
    let map := Dict.ofList bound
    let call : InnerCall := { param := some "", args := map }
    let sent : Envelope := { param := some "", timestamp := some (-1), inner := some call }
    let reply : Reply := { data := map, back := some sent }
    let row := bound.reverse.map (argField 1) ++ backField (some sent)
    Message.encodedSize reply < 0x10000000000000000 ∧ Field.encodeAll row ≠ Message.encode reply ∧
      Message.decode (Field.encodeAll row) = some reply := by
  intro bound map call sent reply row
  have perm : bound.reverse.Perm map.entries := by decide +kernel
  have written : reply.Row row :=
    ⟨_, some (Message.fields sent), perm, .some (Envelope.row_fields sent), rfl⟩
  have fits : Message.encodedSize reply < 0x10000000000000000 := by decide +kernel
  exact ⟨fits, by decide +kernel, family_reads_back.2.2.1.decode written fits⟩

end Gatehouse
