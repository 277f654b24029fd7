import Gatehouse.Fault
import Gatehouse.Upload.Source
import Gatehouse.Wire.Envelope

/-!
The messages of an upload.

Every file is sent as a start marker, its content in chunks, and an end marker. Each message is a
copy of the template with one argument: `meta` for a marker, `chunk` for a chunk. All chunks of a
file have the same size, except that the last one may be shorter; the frames in which the content
arrives do not show. `send` runs the encoder against an `Outbox`, the stream to the backend, which
may stop accepting messages at any moment.
-/

namespace Gatehouse.Upload

def metaKey : String := "meta"

def chunkKey : String := "chunk"

/-- Whether a marker opens or closes a file. -/
inductive Phase where
  | start
  | finish
  deriving DecidableEq, Repr, Inhabited

def Phase.word : Phase → String
  | start => "start"
  | finish => "end"

/-- A message: the template with one argument in place of its own. -/
def message (template : Envelope) (key : String) (value : Any) : Envelope :=
  { template with args := Dict.ofList [(key, value)] }

def marker (template : Envelope) (filename : String) (phase : Phase) : Envelope :=
  message template metaKey (Any.pack Any.stringMapType
    (StringMap.mk (Dict.ofList [("filename", filename), ("phase", phase.word)])))

def chunk (template : Envelope) (filename : String) (data : Bytes) : Envelope :=
  message template chunkKey (Any.pack Any.fileChunkType (FileChunk.mk filename data))

/-! ## Cutting -/

/-- Bytes of a file that do not fill a chunk of `size` bytes yet. -/
structure Buffer (size : Nat) where
  bytes : Bytes
  short : bytes.length < size

namespace Buffer

variable {size : Nat}

def empty (positive : 0 < size) : Buffer size := ⟨[], positive⟩

/-- The buffer after its chunk was sent. -/
def emptied (buffer : Buffer size) : Buffer size :=
  empty (Nat.zero_lt_of_lt buffer.short)

/-- How many bytes fill the chunk. -/
def room (buffer : Buffer size) : Nat := size - buffer.bytes.length

theorem room_pos (buffer : Buffer size) : 0 < buffer.room :=
  Nat.sub_pos_of_lt buffer.short

/-- As many bytes of a frame as there is room for, behind those of the buffer. -/
def fill (buffer : Buffer size) (frame : Bytes) : Bytes :=
  buffer.bytes ++ frame.take buffer.room

theorem length_fill_le (buffer : Buffer size) (frame : Bytes) :
    (buffer.fill frame).length ≤ size := by
  have short := buffer.short
  simp only [fill, room, List.length_append, List.length_take]
  omega

end Buffer

/-- Cut a frame into chunks: those that are full, and what is left behind them. A chunk is taken out
of the frame as it is if nothing is in the buffer and the frame has as much; otherwise the buffer is
filled up first. -/
def cut {size : Nat} (buffer : Buffer size) (frame : Bytes) : List Bytes × Buffer size :=
  if _done : frame.isEmpty then ([], buffer)
  else if buffer.bytes.isEmpty && Bytes.atLeast size frame then
    let (chunks, left) := cut buffer (frame.drop size)
    (frame.take size :: chunks, left)
  else if full : (buffer.fill frame).length = size then
    let (chunks, left) := cut buffer.emptied (frame.drop buffer.room)
    (buffer.fill frame :: chunks, left)
  else
    cut ⟨buffer.fill frame, Nat.lt_of_le_of_ne (buffer.length_fill_le frame) full⟩
      (frame.drop buffer.room)
  termination_by frame.length
  decreasing_by
    all_goals
      have nonempty : 0 < frame.length := List.length_pos_iff.mpr (by simpa using _done)
      have := buffer.short
      have := buffer.room_pos
      simp only [List.length_drop]
      omega

/-! ## The stream to the backend -/

/-- The messages that a stream has accepted, the last one first, and how many more it accepts before
the backend closes it, if it ever does. -/
structure Outbox where
  accepted : List Envelope := []
  room : Option Nat := none
  deriving Repr, Inhabited

/-- What is done with a stream: it ends in a value or a fault, and with the stream after it. -/
abbrev Sending (α : Type) := Outbox → Except Fault α × Outbox

namespace Sending

def pure {α : Type} (a : α) : Sending α := fun box => (.ok a, box)

def bind {α β : Type} (first : Sending α) (next : α → Sending β) : Sending β := fun box =>
  match first box with
  | (.ok a, box) => next a box
  | (.error fault, box) => (.error fault, box)

instance : Monad Sending where
  pure := pure
  bind := bind

def fail {α : Type} (fault : Fault) : Sending α := fun box => (.error fault, box)

end Sending

/-- Send one message. -/
def push (envelope : Envelope) : Sending Unit := fun box =>
  match box.room with
  | some 0 => (.error (.upload "upload stream closed by backend"), box)
  | some (room + 1) => (.ok (), { accepted := envelope :: box.accepted, room := some room })
  | none => (.ok (), { box with accepted := envelope :: box.accepted })

/-- Send messages one after another. -/
def pushAll : List Envelope → Sending Unit
  | [] => .pure ()
  | envelope :: rest => (push envelope).bind fun _ => pushAll rest

/-! ## Files -/

/-- Send the chunks of a file, of which `buffer` holds the bytes that were not sent yet, and return
how many bytes the frames had. -/
def pushFrames (template : Envelope) (filename : String) {size : Nat} :
    (buffer : Buffer size) → (total : Nat) → List Frame → Sending Nat
  | buffer, total, [] =>
    if buffer.bytes.isEmpty then .pure total
    else (push (chunk template filename buffer.bytes)).bind fun _ => .pure total
  | _, _, .failed reason :: _ => .fail (.upload ("reading " ++ filename ++ ": " ++ reason))
  | buffer, total, .data bytes :: rest =>
    match cut buffer bytes with
    | (chunks, buffer) =>
      (pushAll (chunks.map (chunk template filename))).bind fun _ =>
        pushFrames template filename buffer (total + bytes.length) rest

/-- The size of chunks that a configured size stands for. A chunk has one byte at least. -/
def chunkSize (size : Nat) : Nat := max size 1

theorem chunkSize_pos (size : Nat) : 0 < chunkSize size :=
  Nat.le_max_right size 1

/-- Send one file and return its length. -/
def pushFile (template : Envelope) (size : Nat) (filename : String) (frames : List Frame) :
    Sending Nat :=
  (push (marker template filename .start)).bind fun _ =>
    (pushFrames template filename (.empty (chunkSize_pos size)) 0 frames).bind fun total =>
      (push (marker template filename .finish)).bind fun _ => .pure total

/-- Send the parts that are files, on top of `files` files and `bytes` bytes already sent. -/
def pushParts (template : Envelope) (size : Nat) (failure : Option String) :
    (files bytes : Nat) → List Part → Sending (Nat × Nat)
  | files, bytes, [] =>
    match failure with
    | some reason => .fail (.upload ("multipart: " ++ reason))
    | none => .pure (files, bytes)
  | files, bytes, part :: rest =>
    match part.filename with
    | none => pushParts template size failure files bytes rest
    | some filename =>
      (pushFile template size filename part.frames).bind fun total =>
        pushParts template size failure (files + 1) (bytes + total) rest

/-- Send all files of a source, and return how many they were and their length. -/
def pushSource (template : Envelope) (size : Nat) : Source → Sending (Nat × Nat)
  | .single filename frames =>
    (pushFile template size filename frames).bind fun total => .pure (1, total)
  | .multipart parts failure => pushParts template size failure 0 0 parts

/-- Run an encoder on a stream that accepts at most `room` messages: its result and the messages
that were accepted, in order. -/
def send {α : Type} (room : Option Nat) (encoder : Sending α) : Except Fault α × List Envelope :=
  match encoder { room } with
  | (result, box) => (result, box.accepted.reverse)

end Gatehouse.Upload
