import Gatehouse.Proofs.Upload.Chunks

/-!
The sequence of messages of an upload.

`Pushes` says of an encoder that it pushes certain messages and then ends in a certain way. What it
does on a stream follows from that: either the stream takes all of the messages, or it takes as many
as it has room for and the upload ends with the stream. An encoder that is put together from parts
pushes what its parts push, so the messages of a file, and those of a source, are found by induction
on the frames and on the parts.
-/

namespace Gatehouse

namespace Upload

variable {α β : Type}

/-! ## What encoders push -/

/-- End in a value or a fault. -/
def finish (ending : Except Fault α) : Sending α := fun box => (ending, box)

/-- An encoder pushes these messages, and then ends so. -/
def Pushes (encoder : Sending α) (messages : List Envelope) (ending : Except Fault α) : Prop :=
  encoder = (pushAll messages).bind fun _ => finish ending

namespace Sending

theorem bind_assoc {γ : Type} (first : Sending α) (next : α → Sending β) (last : β → Sending γ) :
    (first.bind next).bind last = first.bind fun value => (next value).bind last := by
  funext box
  unfold bind
  rcases first box with ⟨fault | value, after⟩
  · rfl
  · rfl

end Sending

theorem pushAll_append (first rest : List Envelope) :
    pushAll (first ++ rest) = (pushAll first).bind fun _ => pushAll rest := by
  induction first with
  | nil => rfl
  | cons envelope more ih => rw [List.cons_append, pushAll, ih, pushAll, Sending.bind_assoc]

namespace Pushes

variable {encoder : Sending α} {messages : List Envelope}

theorem pure (value : α) : Pushes (.pure value) [] (.ok value) := rfl

theorem fail (fault : Fault) : Pushes (α := α) (.fail fault) [] (.error fault) := rfl

theorem pushAll (messages : List Envelope) : Pushes (pushAll messages) messages (.ok ()) := by
  funext box
  unfold Sending.bind
  rcases Upload.pushAll messages box with ⟨fault | value, after⟩
  · rfl
  · rfl

theorem push (envelope : Envelope) : Pushes (push envelope) [envelope] (.ok ()) := by
  funext box
  change _ = ((Upload.push envelope).bind fun _ => .pure ()).bind (fun _ => finish (.ok ())) box
  unfold Sending.bind
  rcases Upload.push envelope box with ⟨fault | value, after⟩
  · rfl
  · rfl

/-- An encoder that goes on with what its first part has come to. -/
theorem bind {value : α} {next : α → Sending β} {more : List Envelope} {ending : Except Fault β}
    (first : Pushes encoder messages (.ok value)) (rest : Pushes (next value) more ending) :
    Pushes (encoder.bind next) (messages ++ more) ending := by
  unfold Pushes at first rest ⊢
  have goesOn : (finish (.ok value)).bind next = next value := rfl
  rw [first, Sending.bind_assoc, pushAll_append, Sending.bind_assoc, goesOn, rest]

/-- An encoder whose first part has failed. -/
theorem bind_error {fault : Fault} {next : α → Sending β}
    (first : Pushes encoder messages (.error fault)) :
    Pushes (encoder.bind next) messages (.error fault) := by
  unfold Pushes at first ⊢
  have stops : (finish (.error fault)).bind next = finish (.error fault) := rfl
  rw [first, Sending.bind_assoc, stops]

end Pushes

/-! ## On a stream -/

/-- Whether a stream takes as many messages. -/
def Takes (room : Option Nat) (count : Nat) : Prop :=
  ∀ most, room = some most → count ≤ most

theorem takes_or_stops (room : Option Nat) (count : Nat) :
    Takes room count ∨ ∃ most, room = some most ∧ most < count := by
  cases room with
  | none => exact Or.inl nofun
  | some most =>
    rcases Nat.lt_or_ge most count with full | enough
    · exact Or.inr ⟨most, rfl, full⟩
    · refine Or.inl ?_
      rintro _ ⟨⟩
      exact enough

/-- The fault of an upload whose stream takes no more messages. -/
def closedEarly : Fault := .upload "upload stream closed by backend"

theorem pushAll_takes {room : Option Nat} {messages : List Envelope}
    (takes : Takes room messages.length) (accepted : List Envelope) :
    pushAll messages ⟨accepted, room⟩ =
      (.ok (), ⟨messages.reverse ++ accepted, room.map (· - messages.length)⟩) := by
  induction messages generalizing room accepted with
  | nil => cases room <;> rfl
  | cons envelope rest ih =>
    cases room with
    | none =>
      have endless : Takes none rest.length := nofun
      have remaining := ih endless (envelope :: accepted)
      rw [pushAll, List.reverse_cons, List.append_assoc]
      exact remaining
    | some most =>
      have enough : rest.length + 1 ≤ most := takes most rfl
      obtain ⟨less, rfl⟩ : ∃ less, most = less + 1 := ⟨most - 1, by omega⟩
      have enoughLeft : Takes (some less) rest.length := by
        rintro _ ⟨⟩
        omega
      have remaining := ih enoughLeft (envelope :: accepted)
      have left : less + 1 - (rest.length + 1) = less - rest.length := by omega
      rw [pushAll, List.reverse_cons, List.append_assoc, List.length_cons, Option.map_some, left]
      exact remaining

theorem pushAll_stops {most : Nat} {messages : List Envelope} (full : most < messages.length)
    (accepted : List Envelope) :
    pushAll messages ⟨accepted, some most⟩ =
      (.error closedEarly, ⟨(messages.take most).reverse ++ accepted, some 0⟩) := by
  induction messages generalizing most accepted with
  | nil => exact absurd full (Nat.not_lt_zero _)
  | cons envelope rest ih =>
    cases most with
    | zero => rfl
    | succ less =>
      have remaining := ih (Nat.lt_of_succ_lt_succ full) (envelope :: accepted)
      rw [pushAll, List.take_succ_cons, List.reverse_cons, List.append_assoc]
      exact remaining

/-- A stream that takes all messages: the upload ends as its encoder does. -/
theorem Pushes.send_takes {encoder : Sending α} {messages : List Envelope}
    {ending : Except Fault α} (pushes : Pushes encoder messages ending) {room : Option Nat}
    (takes : Takes room messages.length) : send room encoder = (ending, messages) := by
  unfold Pushes at pushes
  have accepted := pushAll_takes takes []
  rw [List.append_nil] at accepted
  rw [send, pushes, Sending.bind, accepted]
  dsimp only [finish]
  rw [List.reverse_reverse]

/-- A stream that does not: the messages that it takes are the first ones. -/
theorem Pushes.send_stops {encoder : Sending α} {messages : List Envelope}
    {ending : Except Fault α} (pushes : Pushes encoder messages ending) {most : Nat}
    (full : most < messages.length) :
    send (some most) encoder = (.error closedEarly, messages.take most) := by
  unfold Pushes at pushes
  have accepted := pushAll_stops full []
  rw [List.append_nil] at accepted
  rw [send, pushes, Sending.bind, accepted]
  dsimp only
  rw [List.reverse_reverse]

/-- An upload has come to its end without a fault exactly if its encoder has and the stream has
taken all messages. -/
theorem Pushes.send_ok_iff {encoder : Sending α} {messages sent : List Envelope}
    {ending : Except Fault α} (pushes : Pushes encoder messages ending) {room : Option Nat}
    {value : α} :
    send room encoder = (.ok value, sent) ↔
      ending = .ok value ∧ sent = messages ∧ Takes room messages.length := by
  constructor
  · intro isSent
    rcases takes_or_stops room messages.length with takes | ⟨most, rfl, full⟩
    · rw [pushes.send_takes takes] at isSent
      cases isSent
      exact ⟨rfl, rfl, takes⟩
    · rw [pushes.send_stops full] at isSent
      cases isSent
  · rintro ⟨rfl, rfl, takes⟩
    exact pushes.send_takes takes

/-! ## Frames -/

section Files

variable (template : Envelope) (filename : String) {size : Nat}

/-- The chunks of a file as messages, behind those that are pushed already. -/
theorem pushes_frames {frames : List Frame} {bytes : Bytes} (whole : content frames = .ok bytes)
    (buffer : Buffer size) (total : Nat) :
    Pushes (pushFrames template filename buffer total frames)
      ((chunks size (buffer.bytes ++ bytes)).map (chunk template filename))
      (.ok (total + bytes.length)) := by
  induction frames generalizing buffer total bytes with
  | nil =>
    cases whole
    rw [pushFrames, List.append_nil, buffer.chunks_bytes]
    cases buffer.bytes.isEmpty with
    | true => exact Pushes.pure _
    | false => exact (Pushes.push _).bind (Pushes.pure _)
  | cons frame rest ih =>
    cases frame with
    | failed reason => cases whole
    | data first =>
      rw [content] at whole
      cases later : content rest with
      | error reason =>
        rw [later] at whole
        cases whole
      | ok remaining =>
        rw [later] at whole
        cases whole
        rw [pushFrames, chunks_cut, List.map_append, List.length_append, ← Nat.add_assoc]
        exact (Pushes.pushAll _).bind (ih later _ _)

end Files

/-! ## Files -/

/-- A file as a whole. -/
structure File where
  name : String
  bytes : Bytes
  deriving DecidableEq, Repr, Inhabited

/-- The messages of a file: its chunks between two markers. -/
def File.messages (template : Envelope) (size : Nat) (file : File) : List Envelope :=
  marker template file.name .start ::
    ((chunks (chunkSize size) file.bytes).map (chunk template file.name) ++
      [marker template file.name .finish])

/-- The parts that are files, unless one of them cannot be read. -/
def files? : List Part → Option (List File)
  | [] => some []
  | part :: rest =>
    match part.filename with
    | none => files? rest
    | some name =>
      match content part.frames with
      | .ok bytes => (files? rest).map (⟨name, bytes⟩ :: ·)
      | .error _ => none

/-- The files of a source, unless something of it cannot be read. -/
def Source.files? : Source → Option (List File)
  | .single name frames => (content frames).toOption.map fun bytes => [⟨name, bytes⟩]
  | .multipart parts failure =>
    match failure with
    | some _ => none
    | none => Upload.files? parts

/-- The length of files together. -/
def totalLength : List File → Nat
  | [] => 0
  | file :: rest => file.bytes.length + totalLength rest

section Sources

variable (template : Envelope) (size : Nat)

theorem pushes_file {name : String} {frames : List Frame} {bytes : Bytes}
    (whole : content frames = .ok bytes) :
    Pushes (pushFile template size name frames) (File.messages template size ⟨name, bytes⟩)
      (.ok bytes.length) := by
  have between := pushes_frames template name whole (.empty (chunkSize_pos size)) 0
  rw [Nat.zero_add] at between
  have ends : Pushes ((push (marker template name .finish)).bind fun _ => .pure bytes.length)
      [marker template name .finish] (.ok bytes.length) := (Pushes.push _).bind (Pushes.pure _)
  exact (Pushes.push _).bind (between.bind ends)

theorem pushes_parts {parts : List Part} {files : List File} (readable : files? parts = some files)
    (count bytes : Nat) :
    Pushes (pushParts template size none count bytes parts)
      (files.flatMap (File.messages template size))
      (.ok (count + files.length, bytes + totalLength files)) := by
  induction parts generalizing files count bytes with
  | nil =>
    cases readable
    exact Pushes.pure _
  | cons part rest ih =>
    rw [pushParts]
    rw [Upload.files?] at readable
    cases named : part.filename with
    | none =>
      rw [named] at readable
      exact ih readable count bytes
    | some name =>
      rw [named] at readable
      cases read : content part.frames with
      | error reason =>
        rw [read] at readable
        cases readable
      | ok first =>
        rw [read] at readable
        obtain ⟨later, readableLater, rfl⟩ := Option.map_eq_some_iff.mp readable
        have remaining := ih readableLater (count + 1) (bytes + first.length)
        have counted : count + (later.length + 1) = count + 1 + later.length := by omega
        have added : bytes + totalLength (⟨name, first⟩ :: later) =
            bytes + first.length + totalLength later := by
          rw [Nat.add_assoc]
          rfl
        rw [List.flatMap_cons, List.length_cons, counted, added]
        exact (pushes_file template size read).bind remaining

/-- The messages of a source are those of its files, one file after the other. -/
theorem pushes_source {source : Source} {files : List File}
    (readable : source.files? = some files) :
    Pushes (pushSource template size source) (files.flatMap (File.messages template size))
      (.ok (files.length, totalLength files)) := by
  cases source with
  | single name frames =>
    cases read : content frames with
    | error reason =>
      rw [Source.files?, read] at readable
      cases readable
    | ok bytes =>
      rw [Source.files?, read] at readable
      cases readable
      have pushes : Pushes (pushSource template size (.single name frames))
          (File.messages template size ⟨name, bytes⟩ ++ []) (.ok (1, bytes.length)) :=
        (pushes_file template size read).bind (Pushes.pure (1, bytes.length))
      exact pushes
  | multipart parts failure =>
    cases failure with
    | some reason => cases readable
    | none =>
      have pushes := pushes_parts template size readable 0 0
      rw [Nat.zero_add, Nat.zero_add] at pushes
      exact pushes

end Sources

end Upload

end Gatehouse
