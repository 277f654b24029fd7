import Gatehouse.Proofs.Upload.Breaking
import Gatehouse.Proofs.Wire.Packed

/-!
What a backend receives of an upload.

`receive?` is the other end of the stream: it reads from each message the marker or the slice that
it carries, and puts the files together again. It refuses messages that are not in order, such as a
slice outside of the markers of its file. The theorem at the end says of every upload that comes to
its end what was sent: which messages there are, how the files were cut, and that the backend gets
the files that the client has sent, however they arrived.
-/

namespace Gatehouse

open Wire

namespace Upload

/-! ## Reading messages -/

/-- What a message of an upload says. -/
inductive Signal where
  | marker (name : String) (phase : Phase)
  | slice (name : String) (data : Bytes)
  deriving DecidableEq, Repr

/-- The phase that a word stands for. -/
def Phase.ofWord? (word : String) : Option Phase :=
  if word = "start" then some .start else if word = "end" then some .finish else none

/-- The marker that a map of texts describes. -/
def markerOf? (map : StringMap) : Option Signal := do
  let name ← map.entries.get? "filename"
  let phase ← (map.entries.get? "phase").bind Phase.ofWord?
  some (.marker name phase)

/-- What a message says. It has one argument, which is a marker or a slice of a file. -/
def signal? (envelope : Envelope) : Option Signal :=
  match envelope.args.entries with
  | [(key, value)] =>
    if key = metaKey then (Any.unpack? Any.stringMapType value).bind markerOf?
    else if key = chunkKey then
      (Any.unpack? Any.fileChunkType value).map fun slice : FileChunk =>
        .slice slice.name slice.data
    else none
  | _ => none

/-- Put files together, behind a file that has been begun. -/
def collect? : (begun : Option File) → List Signal → Option (List File)
  | none, [] => some []
  | none, .marker name .start :: rest => collect? (some ⟨name, []⟩) rest
  | some file, .slice name data :: rest =>
    if name = file.name then collect? (some ⟨file.name, file.bytes ++ data⟩) rest else none
  | some file, .marker name .finish :: rest =>
    if name = file.name then (collect? none rest).map (file :: ·) else none
  | _, _ => none

/-- The files that messages hold. -/
def receive? (messages : List Envelope) : Option (List File) :=
  (messages.mapM signal?).bind (collect? none)

/-! ## Messages one by one -/

/-- A name that fits into memory. -/
def Nameable (name : String) : Prop :=
  (utf8 name).length < 0x8000000000000000

/-- The texts of a marker. -/
def markerTexts (name : String) (phase : Phase) : StringMap :=
  .mk (Dict.ofList [("filename", name), ("phase", phase.word)])

theorem entries_markerTexts (name : String) (phase : Phase) :
    (markerTexts name phase).entries.entries = [("filename", name), ("phase", phase.word)] := by
  have after : ¬ "phase" < "filename" := by decide
  have different : ¬ "phase" = "filename" := by decide
  simp only [markerTexts, Dict.ofList, Entries.ofList, List.foldl_cons, List.foldl_nil,
    Entries.insert, after, different, if_false]

theorem decode_markerTexts {name : String} (nameable : Nameable name) (phase : Phase) :
    Message.decode (Message.encode (markerTexts name phase)) = some (markerTexts name phase) := by
  unfold Nameable at nameable
  have short : (utf8 "filename").length = 8 ∧ (utf8 "phase").length = 5 ∧
      (utf8 phase.word).length ≤ 5 := by
    cases phase <;> decide
  refine StringMap.decode_encode ?_
  intro e member
  rw [entries_markerTexts] at member
  unfold TextEntry.Fits
  rcases List.mem_cons.mp member with rfl | second
  · dsimp only
    omega
  · rw [List.mem_singleton.mp second]
    dsimp only
    omega

theorem markerOf?_markerTexts (name : String) (phase : Phase) :
    markerOf? (markerTexts name phase) = some (.marker name phase) := by
  have named : (markerTexts name phase).entries.get? "filename" = some name := by
    rw [Dict.get?, entries_markerTexts]
    rfl
  have phased : (markerTexts name phase).entries.get? "phase" = some phase.word := by
    rw [Dict.get?, entries_markerTexts]
    rfl
  have word : Phase.ofWord? phase.word = some phase := by
    cases phase <;> rfl
  rw [markerOf?, named, phased, Option.bind_some, word]
  rfl

theorem signal?_marker (template : Envelope) {name : String} (nameable : Nameable name)
    (phase : Phase) : signal? (marker template name phase) = some (.marker name phase) := by
  change (Any.unpack? Any.stringMapType (Any.pack Any.stringMapType (markerTexts name phase))).bind
    markerOf? = _
  rw [Any.unpack?_pack _ (decode_markerTexts nameable phase), Option.bind_some,
    markerOf?_markerTexts]

theorem signal?_chunk (template : Envelope) {name : String} (nameable : Nameable name)
    {data : Bytes} (short : data.length < 0x10000000000000000) :
    signal? (chunk template name data) = some (.slice name data) := by
  have readable : Message.decode (Message.encode (FileChunk.mk name data)) =
      some (FileChunk.mk name data) :=
    FileChunk.decode_encode (Nat.lt_trans nameable (by decide)) short
  change (Any.unpack? Any.fileChunkType (Any.pack Any.fileChunkType (FileChunk.mk name data))).map
    _ = _
  rw [Any.unpack?_pack _ readable]
  rfl

/-- A message of an upload is the template but for its arguments, of which it has one. -/
structure IsCopy (template message : Envelope) : Prop where
  same : { message with args := template.args } = template
  single : message.args.keys = [metaKey] ∨ message.args.keys = [chunkKey]

theorem isCopy_of_mem {template m : Envelope} {size : Nat} {file : File}
    (member : m ∈ file.messages template size) : IsCopy template m := by
  rcases List.mem_cons.mp member with rfl | later
  · exact ⟨rfl, Or.inl rfl⟩
  · rcases List.mem_append.mp later with slice | last
    · obtain ⟨piece, -, rfl⟩ := List.mem_map.mp slice
      exact ⟨rfl, Or.inr rfl⟩
    · rw [List.mem_singleton.mp last]
      exact ⟨rfl, Or.inl rfl⟩

/-! ## Messages in sequence -/

/-- What the messages of a file say. -/
def File.signals (size : Nat) (file : File) : List Signal :=
  .marker file.name .start ::
    ((chunks (chunkSize size) file.bytes).map (.slice file.name) ++ [.marker file.name .finish])

theorem mapM_chunk (template : Envelope) {name : String} (nameable : Nameable name)
    {pieces : List Bytes} (short : ∀ piece ∈ pieces, piece.length < 0x10000000000000000) :
    (pieces.map (chunk template name)).mapM signal? = some (pieces.map (.slice name)) := by
  induction pieces with
  | nil => rfl
  | cons piece rest ih =>
    rw [List.map_cons, List.mapM_cons, signal?_chunk template nameable (short piece
      List.mem_cons_self), ih fun other member => short other (List.mem_cons_of_mem _ member)]
    rfl

theorem mapM_signal?_file (template : Envelope) {size : Nat} (word : size < 0x10000000000000000)
    {file : File} (nameable : Nameable file.name) :
    (file.messages template size).mapM signal? = some (file.signals size) := by
  have short : ∀ piece ∈ chunks (chunkSize size) file.bytes,
      piece.length < 0x10000000000000000 := by
    intro piece member
    have within := (length_of_mem_chunks member).2
    unfold chunkSize at within
    omega
  rw [File.messages, List.mapM_cons, List.mapM_append, signal?_marker template nameable,
    mapM_chunk template nameable short, List.mapM_cons, signal?_marker template nameable]
  rfl

theorem collect?_slices (file : File) (pieces : List Bytes) (rest : List Signal) :
    collect? (some file) (pieces.map (.slice file.name) ++ rest) =
      collect? (some ⟨file.name, file.bytes ++ pieces.flatten⟩) rest := by
  induction pieces generalizing file with
  | nil => rw [List.flatten_nil, List.append_nil]; rfl
  | cons piece more ih =>
    have remaining := ih ⟨file.name, file.bytes ++ piece⟩
    rw [List.append_assoc] at remaining
    rw [List.map_cons, List.cons_append, collect?, if_pos rfl, List.flatten_cons]
    exact remaining

/-- The chunks of a file, put together, are the file. -/
theorem collect?_file (size : Nat) (file : File) (rest : List Signal) :
    collect? none (file.signals size ++ rest) = (collect? none rest).map (file :: ·) := by
  have together := flatten_chunks (chunkSize_pos size) file.bytes
  have slices := collect?_slices ⟨file.name, []⟩ (chunks (chunkSize size) file.bytes)
    (.marker file.name .finish :: rest)
  rw [together, List.nil_append, collect?, if_pos rfl] at slices
  rw [File.signals, List.cons_append, List.append_assoc, collect?]
  exact slices

/-- What is received is what was sent. -/
theorem receive?_messages (template : Envelope) {size : Nat} (word : size < 0x10000000000000000)
    {files : List File} (nameable : ∀ file ∈ files, Nameable file.name) :
    receive? (files.flatMap (File.messages template size)) = some files := by
  have signals : (files.flatMap (File.messages template size)).mapM signal? =
      some (files.flatMap (File.signals size)) := by
    induction files with
    | nil => rfl
    | cons file rest ih =>
      rw [List.flatMap_cons, List.mapM_append,
        mapM_signal?_file template word (nameable file List.mem_cons_self),
        ih fun other member => nameable other (List.mem_cons_of_mem _ member)]
      rfl
  rw [receive?, signals, Option.bind_some]
  clear signals nameable
  induction files with
  | nil => rfl
  | cons file rest ih => rw [List.flatMap_cons, collect?_file, ih, Option.map_some]

/-! ## Whole uploads -/

/-- When an upload comes to its end, and with what. -/
theorem send_source_iff {template : Envelope} {size : Nat} {source : Source} {room : Option Nat}
    {count total : Nat} {sent : List Envelope} :
    send room (pushSource template size source) = (.ok (count, total), sent) ↔
      ∃ files, source.files? = some files ∧ count = files.length ∧ total = totalLength files ∧
        sent = files.flatMap (File.messages template size) ∧ Takes room sent.length := by
  cases readable : source.files? with
  | some files =>
    rw [(pushes_source template size readable).send_ok_iff]
    constructor
    · rintro ⟨ending, rfl, takes⟩
      cases ending
      exact ⟨files, rfl, rfl, rfl, rfl, takes⟩
    · rintro ⟨_, same, rfl, rfl, rfl, takes⟩
      cases same
      exact ⟨rfl, rfl, takes⟩
  | none =>
    obtain ⟨fault, -, pushes⟩ := pushes_source_failed template size readable
    rw [pushes.send_ok_iff]
    constructor
    · rintro ⟨failed, -⟩
      cases failed
    · rintro ⟨_, none, -⟩
      cases none

/-- An upload that comes to its end has sent the files of its source, one after the other, each as
its chunks between two markers. Every chunk of a file is full but for the last one, which is not
empty, so that there are as many as the length of the file takes. Every message is the template with
one argument in place of its own, and the numbers returned are those of the files and of their
bytes.

A backend that reads the messages gets the files, provided that the size of chunks is a word and
that the names fit into memory. The way in which the bytes have arrived does not show: of another
source with the same files the same messages are sent, to any stream that takes them. -/
theorem upload_delivers {template : Envelope} {size : Nat} {source : Source} {room : Option Nat}
    {count total : Nat} {sent : List Envelope}
    (ended : send room (pushSource template size source) = (.ok (count, total), sent)) :
    ∃ files, source.files? = some files ∧
      count = files.length ∧ total = totalLength files ∧
      sent = files.flatMap (File.messages template size) ∧
      (∀ file ∈ files,
        let pieces := chunks (chunkSize size) file.bytes
        pieces.flatten = file.bytes ∧
        pieces.length = (file.bytes.length + chunkSize size - 1) / chunkSize size ∧
        (∀ piece ∈ pieces.dropLast, piece.length = chunkSize size) ∧
        ∀ piece ∈ pieces, 0 < piece.length ∧ piece.length ≤ chunkSize size) ∧
      (∀ message ∈ sent, IsCopy template message) ∧
      (size < 0x10000000000000000 → (∀ file ∈ files, Nameable file.name) →
        receive? sent = some files) ∧
      ∀ (other : Source) (stream : Option Nat), other.files? = some files →
        Takes stream sent.length →
        send stream (pushSource template size other) = (.ok (count, total), sent) := by
  obtain ⟨files, readable, isCount, isTotal, isSent, -⟩ := send_source_iff.mp ended
  have positive := chunkSize_pos size
  refine ⟨files, readable, isCount, isTotal, isSent, ?_, ?_, ?_, ?_⟩
  · intro file _
    exact ⟨flatten_chunks positive _, length_chunks positive _,
      fun _ member => length_of_mem_dropLast member, fun _ member => length_of_mem_chunks member⟩
  · intro message member
    rw [isSent] at member
    obtain ⟨file, -, there⟩ := List.mem_flatMap.mp member
    exact isCopy_of_mem there
  · intro word nameable
    rw [isSent]
    exact receive?_messages template word nameable
  · intro other stream sameFiles takes
    exact send_source_iff.mpr ⟨files, sameFiles, isCount, isTotal, isSent, takes⟩

/-- A form with two files and a field that is none, and chunks of two bytes. -/
theorem upload_delivers_form :
    let source : Source := .multipart
      [⟨some "hello.txt", [.data [104, 101, 108], .data [], .data [108, 111]]⟩,
        ⟨none, [.data [33]]⟩, ⟨some "empty.txt", []⟩] none
    ∃ sent, send none (pushSource {} 2 source) = (.ok (2, 5), sent) ∧
      receive? sent = some [⟨"hello.txt", [104, 101, 108, 108, 111]⟩, ⟨"empty.txt", []⟩] := by
  intro source
  have ended : send none (pushSource {} 2 source) = (.ok (2, 5), _) :=
    send_source_iff.mpr ⟨_, rfl, rfl, rfl, rfl, nofun⟩
  obtain ⟨files, readable, -, -, -, -, -, received, -⟩ := upload_delivers ended
  cases readable
  refine ⟨_, ended, received (by decide) ?_⟩
  intro file member
  rcases List.mem_cons.mp member with rfl | second
  · unfold Nameable
    decide
  · rw [List.mem_singleton.mp second]
    unfold Nameable
    decide

end Upload

end Gatehouse
