import Gatehouse.Proofs.Upload.Sequence

/-!
Uploads that break off.

An `Extent` is what was read of a source when its reading ended: the files that were read to their
end, and the file at which it failed, as far as it goes. What is sent until then is fixed by it, and
an extent that goes on from another is sent by going on from the messages of that. So an upload that
breaks off, on whichever side it may, has sent the beginning of what it would have sent in the end,
and a file that was not read to its end is never closed by its marker.
-/

namespace Gatehouse

namespace Upload

/-! ## What was read -/

/-- The bytes of the frames before the first failure. -/
def received : List Frame → Bytes
  | [] => []
  | .failed _ :: _ => []
  | .data bytes :: rest => bytes ++ received rest

/-- What was read of a source. -/
structure Extent where
  /-- The files that were read to their end. -/
  files : List File
  /-- The beginning of a file whose reading failed. -/
  begun : Option File

/-- What can be read of parts, of which those without a file name are passed over. -/
def extent : List Part → Extent
  | [] => ⟨[], none⟩
  | part :: rest =>
    match part.filename with
    | none => extent rest
    | some name =>
      match content part.frames with
      | .ok bytes => ⟨⟨name, bytes⟩ :: (extent rest).files, (extent rest).begun⟩
      | .error _ => ⟨[], some ⟨name, received part.frames⟩⟩

def Source.extent : Source → Extent
  | .single name frames => Upload.extent [⟨some name, frames⟩]
  | .multipart parts _ => Upload.extent parts

/-- More of a source was read: more of the file that was begun, if there is one, and after it more
files, to the end or not. -/
inductive Extent.GoesOn : Extent → Extent → Prop
  | between (files later : List File) (begun : Option File) :
    GoesOn ⟨files, none⟩ ⟨files ++ later, begun⟩
  | within (files : List File) (name : String) (bytes more : Bytes) :
    GoesOn ⟨files, some ⟨name, bytes⟩⟩ ⟨files, some ⟨name, bytes ++ more⟩⟩
  | beyond (files : List File) (name : String) (bytes more : Bytes) (later : List File)
    (begun : Option File) :
    GoesOn ⟨files, some ⟨name, bytes⟩⟩ ⟨files ++ ⟨name, bytes ++ more⟩ :: later, begun⟩

theorem Extent.GoesOn.refl (extent : Extent) : extent.GoesOn extent := by
  rcases extent with ⟨files, begun⟩
  cases begun with
  | none =>
    have none : GoesOn ⟨files, none⟩ ⟨files ++ [], none⟩ := .between files [] none
    rwa [List.append_nil] at none
  | some file =>
    have none : GoesOn ⟨files, some file⟩ ⟨files, some ⟨file.name, file.bytes ++ []⟩⟩ :=
      .within files file.name file.bytes []
    rwa [List.append_nil] at none

/-! ## What was sent -/

section Messages

variable (template : Envelope) (size : Nat)

/-- The messages of a file that was begun: its start marker, and its full chunks. -/
def File.opening (file : File) : List Envelope :=
  marker template file.name .start ::
    (fullChunks (chunkSize size) file.bytes).map (chunk template file.name)

theorem opening_eq (file : File) :
    ∃ (pieces : List Bytes) (left : Bytes),
      File.opening template size file =
        marker template file.name .start :: pieces.map (chunk template file.name) ∧
      pieces.flatten ++ left = file.bytes ∧
      (∀ piece ∈ pieces, piece.length = chunkSize size) ∧ left.length < chunkSize size := by
  obtain ⟨left, whole, short⟩ := exists_left (chunkSize_pos size) file.bytes
  exact ⟨fullChunks (chunkSize size) file.bytes, left, rfl, whole,
    fun _ => length_of_mem_fullChunks, short⟩

/-- The messages of an extent. -/
def Extent.messages (extent : Extent) : List Envelope :=
  extent.files.flatMap (File.messages template size) ++
    extent.begun.elim [] (File.opening template size)

theorem opening_prefix_opening (name : String) (bytes more : Bytes) :
    File.opening template size ⟨name, bytes⟩ <+:
      File.opening template size ⟨name, bytes ++ more⟩ :=
  (List.prefix_cons_inj _).mpr
    ((fullChunks_prefix_fullChunks (chunkSize_pos size) bytes more).map (chunk template name))

theorem opening_prefix_messages (name : String) (bytes more : Bytes) :
    File.opening template size ⟨name, bytes⟩ <+:
      File.messages template size ⟨name, bytes ++ more⟩ := by
  have chunks := (fullChunks_prefix_chunks (chunkSize_pos size) bytes more).map
    (chunk template name)
  exact (List.prefix_cons_inj _).mpr (chunks.trans (List.prefix_append _ _))

/-- To read more is to send more. -/
theorem Extent.GoesOn.prefix_messages {early late : Extent} (goesOn : early.GoesOn late) :
    early.messages template size <+: late.messages template size := by
  cases goesOn with
  | between files later begun =>
    unfold Extent.messages
    rw [List.flatMap_append, List.append_assoc]
    exact (List.prefix_append_right_inj _).mpr List.nil_prefix
  | within files name bytes more =>
    exact (List.prefix_append_right_inj _).mpr (opening_prefix_opening template size name bytes more)
  | beyond files name bytes more later begun =>
    have opened := opening_prefix_messages template size name bytes more
    unfold Extent.messages
    rw [List.flatMap_append, List.flatMap_cons, List.append_assoc, List.append_assoc]
    exact (List.prefix_append_right_inj _).mpr (opened.trans (List.prefix_append _ _))

end Messages

/-! ## Failures -/

/-- The fault of an upload whose source could not be read. -/
inductive Unread : Fault → Prop
  | file (name reason : String) : Unread (.upload ("reading " ++ name ++ ": " ++ reason))
  | form (reason : String) : Unread (.upload ("multipart: " ++ reason))

section Sources

variable (template : Envelope)

theorem pushes_frames_failed (filename : String) {size : Nat} {frames : List Frame}
    {reason : String} (broken : content frames = .error reason) (buffer : Buffer size)
    (total : Nat) :
    Pushes (pushFrames template filename buffer total frames)
      ((fullChunks size (buffer.bytes ++ received frames)).map (chunk template filename))
      (.error (.upload ("reading " ++ filename ++ ": " ++ reason))) := by
  induction frames generalizing buffer total with
  | nil => cases broken
  | cons frame rest ih =>
    cases frame with
    | failed first =>
      cases broken
      rw [received, List.append_nil, fullChunks_of_short buffer.short]
      exact Pushes.fail _
    | data first =>
      rw [content] at broken
      cases later : content rest with
      | ok remaining =>
        rw [later] at broken
        cases broken
      | error last =>
        rw [later] at broken
        cases broken
        rw [pushFrames, received, fullChunks_cut, List.map_append]
        exact (Pushes.pushAll _).bind (ih later _ _)

variable (size : Nat)

/-- A file whose reading fails. -/
theorem pushes_file_failed (name : String) {frames : List Frame} {reason : String}
    (broken : content frames = .error reason) :
    Pushes (pushFile template size name frames)
      (File.opening template size ⟨name, received frames⟩)
      (.error (.upload ("reading " ++ name ++ ": " ++ reason))) :=
  (Pushes.push _).bind
    (pushes_frames_failed template name broken (.empty (chunkSize_pos size)) 0).bind_error

theorem pushes_parts_failed {parts : List Part} {failure : Option String}
    (broken : failure ≠ none ∨ files? parts = none) (count bytes : Nat) :
    ∃ fault, Unread fault ∧ Pushes (pushParts template size failure count bytes parts)
      ((extent parts).messages template size) (.error fault) := by
  induction parts generalizing count bytes with
  | nil =>
    rcases broken with some | none
    · obtain ⟨reason, rfl⟩ := Option.ne_none_iff_exists'.mp some
      exact ⟨_, .form reason, Pushes.fail _⟩
    · cases none
  | cons part rest ih =>
    rw [pushParts, extent]
    rw [Upload.files?] at broken
    cases named : part.filename with
    | none =>
      rw [named] at broken
      exact ih broken count bytes
    | some name =>
      rw [named] at broken
      cases read : content part.frames with
      | error reason =>
        have pushes := pushes_file_failed template size name read
        exact ⟨_, .file name reason, pushes.bind_error⟩
      | ok first =>
        rw [read] at broken
        have brokenLater : failure ≠ none ∨ files? rest = none :=
          broken.imp_right Option.map_eq_none_iff.mp
        obtain ⟨fault, unread, pushes⟩ := ih brokenLater (count + 1) (bytes + first.length)
        refine ⟨fault, unread, ?_⟩
        rw [Extent.messages, List.flatMap_cons, List.append_assoc]
        exact (pushes_file template size read).bind pushes

theorem pushes_source_failed {source : Source} (broken : source.files? = none) :
    ∃ fault, Unread fault ∧ Pushes (pushSource template size source)
      (source.extent.messages template size) (.error fault) := by
  cases source with
  | single name frames =>
    cases read : content frames with
    | ok bytes =>
      rw [Source.files?, read] at broken
      cases broken
    | error reason =>
      have pushes := pushes_file_failed template size name read
      rw [Source.extent, extent, read]
      exact ⟨_, .file name reason, pushes.bind_error⟩
  | multipart parts failure =>
    refine pushes_parts_failed template size ?_ 0 0
    cases failure with
    | some reason => exact Or.inl (Option.some_ne_none reason)
    | none => exact Or.inr broken

/-- A source that can be read to its end is read to its end. -/
theorem extent_of_files {parts : List Part} {files : List File}
    (readable : files? parts = some files) : extent parts = ⟨files, none⟩ := by
  induction parts generalizing files with
  | nil =>
    cases readable
    rfl
  | cons part rest ih =>
    rw [Upload.files?] at readable
    rw [extent]
    cases named : part.filename with
    | none =>
      rw [named] at readable
      exact ih readable
    | some name =>
      rw [named] at readable
      cases read : content part.frames with
      | error reason =>
        rw [read] at readable
        cases readable
      | ok bytes =>
        rw [read] at readable
        obtain ⟨later, readableLater, rfl⟩ := Option.map_eq_some_iff.mp readable
        simp only [ih readableLater]

theorem Source.extent_of_files {source : Source} {files : List File}
    (readable : source.files? = some files) : source.extent = ⟨files, none⟩ := by
  cases source with
  | single name frames =>
    cases read : content frames with
    | error reason =>
      rw [Source.files?, read] at readable
      cases readable
    | ok bytes =>
      rw [Source.files?, read] at readable
      cases readable
      exact Upload.extent_of_files (by rw [Upload.files?, read]; rfl)
  | multipart parts failure =>
    cases failure with
    | some reason => cases readable
    | none => exact Upload.extent_of_files readable

/-- What an upload sends is a matter of what can be read of its source. -/
theorem pushes_extent (source : Source) :
    ∃ ending, Pushes (pushSource template size source)
        (source.extent.messages template size) ending ∧
      ((∃ value, ending = .ok value) ∧ source.files? ≠ none ∨
        (∃ fault, Unread fault ∧ ending = .error fault) ∧ source.files? = none) := by
  cases readable : source.files? with
  | none =>
    obtain ⟨fault, unread, pushes⟩ := pushes_source_failed template size readable
    exact ⟨_, pushes, .inr ⟨⟨fault, unread, rfl⟩, rfl⟩⟩
  | some files =>
    have pushes := pushes_source template size readable
    rw [Source.extent_of_files readable, Extent.messages, Option.elim_none, List.append_nil]
    exact ⟨_, pushes, .inl ⟨⟨_, rfl⟩, Option.some_ne_none files⟩⟩

variable {template size}

/-- What a stream accepts that closes is a matter of what was read until then. -/
theorem Extent.GoesOn.send_stops {early : Extent} {source : Source}
    (goesOn : early.GoesOn source.extent) {most : Nat}
    (full : most < (early.messages template size).length) :
    send (some most) (pushSource template size source) =
      (.error closedEarly, (early.messages template size).take most) := by
  obtain ⟨ending, pushes, -⟩ := pushes_extent template size source
  obtain ⟨more, messages⟩ := goesOn.prefix_messages template size
  have fuller : most < (source.extent.messages template size).length := by
    rw [← messages, List.length_append]
    exact Nat.lt_add_right _ full
  rw [pushes.send_stops fuller, ← messages, List.take_append_of_le_length (Nat.le_of_lt full)]

/-- What was sent of a source in the end begins with all that was sent of its beginning. -/
theorem Extent.GoesOn.prefix_sent {early : Extent} {source : Source}
    (goesOn : early.GoesOn source.extent) {room : Option Nat} {value : Nat × Nat}
    {sent : List Envelope}
    (whole : send room (pushSource template size source) = (.ok value, sent)) :
    early.messages template size <+: sent := by
  obtain ⟨ending, pushes, -⟩ := pushes_extent template size source
  obtain ⟨-, rfl, -⟩ := pushes.send_ok_iff.mp whole
  exact goesOn.prefix_messages template size

/-- What a stream takes that takes all that can be read. -/
theorem accepted_of_takes {source : Source} {room : Option Nat}
    (takes : Takes room (source.extent.messages template size).length) :
    (send room (pushSource template size source)).2 = source.extent.messages template size := by
  obtain ⟨ending, pushes, -⟩ := pushes_extent template size source
  rw [pushes.send_takes takes]

/-- What was read was either sent as a whole, or the stream has closed, and then what it has taken
is the beginning of that. -/
theorem Extent.GoesOn.prefix_accepted {early : Extent} {source : Source}
    (goesOn : early.GoesOn source.extent) {room : Option Nat}
    (isRead : early = source.extent ∨
      (send room (pushSource template size source)).2.length <
        (early.messages template size).length) :
    (send room (pushSource template size source)).2 <+: early.messages template size := by
  rcases takes_or_stops room (source.extent.messages template size).length with
    takes | ⟨most, rfl, full⟩
  · -- nothing that was read is longer than all that was accepted
    rw [accepted_of_takes takes] at isRead ⊢
    have shorter := (goesOn.prefix_messages template size).length_le
    obtain rfl := isRead.resolve_right (Nat.not_lt.mpr shorter)
    exact List.prefix_refl _
  · have accepted : (send (some most) (pushSource template size source)).2.length = most := by
      rw [(GoesOn.refl _).send_stops full]
      exact List.length_take_of_le (Nat.le_of_lt full)
    have fullEarly : most < (early.messages template size).length := by
      rcases isRead with rfl | more
      · exact full
      · exact accepted ▸ more
    rw [goesOn.send_stops fullEarly]
    exact List.take_prefix _ _

theorem fails_of_broken {source : Source} {room : Option Nat}
    (breaks : source.files? = none ∨ ¬ Takes room (source.extent.messages template size).length) :
    ∃ reason, (send room (pushSource template size source)).1 = .error (.upload reason) := by
  obtain ⟨ending, pushes, ends⟩ := pushes_extent template size source
  rcases takes_or_stops room (source.extent.messages template size).length with
    takes | ⟨most, rfl, full⟩
  · rw [pushes.send_takes takes]
    have unreadable := breaks.resolve_right (not_not_intro takes)
    rcases ends with ⟨-, readable⟩ | ⟨⟨fault, unread, rfl⟩, -⟩
    · exact absurd unreadable readable
    · cases unread with
      | file name reason => exact ⟨_, rfl⟩
      | form reason => exact ⟨_, rfl⟩
  · rw [pushes.send_stops full]
    exact ⟨_, rfl⟩

end Sources

/-! ## Uploads that break off -/

/-- An upload that breaks off is never taken for a whole one.

If its source cannot be read to the end, or if the stream closes before all is sent that could be
read, it fails with a fault of the upload. If the stream closes, then nothing is read behind the
message that it did not take: where the upload ends, and what the stream has accepted, is the same
for all sources that go on from what was read until then. On whichever side it breaks off, what the
stream has accepted is the beginning of what is sent of any source that goes on from what was read,
provided that this one can be sent to its end. And if only reading fails, then the files before are
sent as a whole, and there is nothing behind them but the start marker of the file at which it
failed, and as many full chunks as its bytes make. -/
theorem broken_upload (template : Envelope) (size : Nat) (source : Source) (room : Option Nat) :
    let run := send room (pushSource template size source)
    (source.files? = none ∨ ¬ Takes room (source.extent.messages template size).length →
      ∃ reason, run.1 = .error (.upload reason)) ∧
    (∀ (early : Extent) (most : Nat), early.GoesOn source.extent → room = some most →
      most < (early.messages template size).length →
      run = (.error closedEarly, (early.messages template size).take most)) ∧
    (∀ early : Extent, early.GoesOn source.extent →
      early = source.extent ∨ run.2.length < (early.messages template size).length →
      ∀ (other : Source) (stream : Option Nat) (value : Nat × Nat) (sent : List Envelope),
        early.GoesOn other.extent →
        send stream (pushSource template size other) = (.ok value, sent) → run.2 <+: sent) ∧
    (source.files? = none → Takes room (source.extent.messages template size).length →
      match source.extent.begun with
      | none => run.2 = source.extent.files.flatMap (File.messages template size)
      | some file => ∃ (pieces : List Bytes) (left : Bytes),
        run.2 = source.extent.files.flatMap (File.messages template size) ++
          marker template file.name .start :: pieces.map (chunk template file.name) ∧
        pieces.flatten ++ left = file.bytes ∧
        (∀ piece ∈ pieces, piece.length = chunkSize size) ∧ left.length < chunkSize size) := by
  intro run
  refine ⟨fails_of_broken, ?_, ?_, ?_⟩
  · rintro early most goesOn rfl full
    exact goesOn.send_stops full
  · intro early goesOn isRead other stream value sent continues whole
    exact (goesOn.prefix_accepted isRead).trans (continues.prefix_sent whole)
  · intro unreadable takes
    have accepted : run.2 = _ := accepted_of_takes takes
    rw [accepted, Extent.messages]
    cases source.extent.begun with
    | none => exact List.append_nil _
    | some file =>
      obtain ⟨pieces, left, opened, rest⟩ := opening_eq template size file
      exact ⟨pieces, left, congrArg _ opened, rest⟩

end Upload

end Gatehouse
