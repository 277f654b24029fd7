import Gatehouse.Upload.Encoder

/-!
The chunks of a file.

`chunks` cuts a content that is there as a whole: pieces of equal length, and at the end a shorter
one for what remains. The encoder never sees a file as a whole. It cuts frame by frame, takes some
chunks out of a frame as they are and fills others up from several, and `chunks_cut` says that this
comes to the same: what it has cut off so far are the first chunks of the file, and what remains to
be cut is the buffer with the frames to come. A file of which only the beginning is there has its
full chunks already, and they are those of the whole file.
-/

namespace Gatehouse

namespace Upload

/-- Pieces of `size` bytes, of which the last one may be shorter. -/
def chunks (size : Nat) (bytes : Bytes) : List Bytes :=
  if _remains : 0 < size ∧ bytes ≠ [] then bytes.take size :: chunks size (bytes.drop size) else []
  termination_by bytes.length
  decreasing_by
    have := List.length_pos_iff.mpr _remains.2
    rw [List.length_drop]
    omega

variable {size : Nat} {bytes : Bytes}

theorem chunks_nil (size : Nat) : chunks size [] = [] := by
  rw [chunks, dif_neg fun remains => remains.2 rfl]

/-- A chunk that is full comes before the chunks of what is behind it. -/
theorem chunks_append {full : Bytes} (positive : 0 < size) (isFull : full.length = size)
    (rest : Bytes) : chunks size (full ++ rest) = full :: chunks size rest := by
  have nonempty : full ++ rest ≠ [] := by
    intro empty
    have := congrArg List.length empty
    rw [List.length_append, List.length_nil] at this
    omega
  rw [chunks, dif_pos ⟨positive, nonempty⟩, List.take_left' isFull, List.drop_left' isFull]

theorem chunks_of_short (nonempty : bytes ≠ []) (short : bytes.length < size) :
    chunks size bytes = [bytes] := by
  have positive : 0 < size := Nat.zero_lt_of_lt short
  have within := Nat.le_of_lt short
  rw [chunks, dif_pos ⟨positive, nonempty⟩, List.take_of_length_le within,
    List.drop_eq_nil_of_le within, chunks_nil]

/-! ## What chunks are -/

theorem flatten_chunks (positive : 0 < size) (bytes : Bytes) :
    (chunks size bytes).flatten = bytes := by
  induction bytes using chunks.induct size with
  | case1 bytes remains ih =>
    rw [chunks, dif_pos remains, List.flatten_cons, ih, List.take_append_drop]
  | case2 bytes atEnd =>
    have empty : bytes = [] := Decidable.not_not.mp fun more => atEnd ⟨positive, more⟩
    rw [empty, chunks_nil]
    rfl

theorem length_of_mem_chunks {piece : Bytes} (member : piece ∈ chunks size bytes) :
    0 < piece.length ∧ piece.length ≤ size := by
  induction bytes using chunks.induct size with
  | case1 bytes remains ih =>
    rw [chunks, dif_pos remains] at member
    rcases List.mem_cons.mp member with rfl | later
    · have := List.length_pos_iff.mpr remains.2
      have := remains.1
      rw [List.length_take]
      omega
    · exact ih later
  | case2 bytes atEnd =>
    rw [chunks, dif_neg atEnd] at member
    cases member

theorem length_of_mem_dropLast {piece : Bytes} (member : piece ∈ (chunks size bytes).dropLast) :
    piece.length = size := by
  induction bytes using chunks.induct size with
  | case1 bytes remains ih =>
    rw [chunks, dif_pos remains] at member
    by_cases last : chunks size (bytes.drop size) = []
    · rw [last] at member
      cases member
    · rw [List.dropLast_cons_of_ne_nil last] at member
      rcases List.mem_cons.mp member with rfl | later
      · -- Something is left behind this piece, so there was enough to fill it.
        have more : bytes.drop size ≠ [] := by
          intro none
          rw [none, chunks_nil] at last
          exact last rfl
        have := List.length_pos_iff.mpr more
        rw [List.length_drop] at this
        rw [List.length_take]
        omega
      · exact ih later
  | case2 bytes atEnd =>
    rw [chunks, dif_neg atEnd] at member
    cases member

/-- As many chunks as it takes. -/
theorem length_chunks (positive : 0 < size) (bytes : Bytes) :
    (chunks size bytes).length = (bytes.length + size - 1) / size := by
  induction bytes using chunks.induct size with
  | case1 bytes remains ih =>
    have more := List.length_pos_iff.mpr remains.2
    rw [chunks, dif_pos remains, List.length_cons, ih, List.length_drop]
    by_cases last : bytes.length ≤ size
    · have none : (bytes.length - size + size - 1) / size = 0 := Nat.div_eq_of_lt (by omega)
      have one : (bytes.length + size - 1) / size = 1 := by
        rw [Nat.div_eq_iff positive]
        omega
      rw [none, one]
    · have split : bytes.length + size - 1 = bytes.length - size + size - 1 + size := by omega
      rw [split, Nat.add_div_right _ positive]
  | case2 bytes atEnd =>
    have empty : bytes = [] := Decidable.not_not.mp fun more => atEnd ⟨positive, more⟩
    rw [empty, chunks_nil, List.length_nil, List.length_nil, Nat.zero_add]
    exact (Nat.div_eq_of_lt (Nat.sub_one_lt_of_lt positive)).symm

/-! ## Cutting frame by frame -/

theorem Buffer.positive (buffer : Buffer size) : 0 < size :=
  Nat.zero_lt_of_lt buffer.short

theorem Buffer.fill_append (buffer : Buffer size) (frame : Bytes) :
    buffer.fill frame ++ frame.drop buffer.room = buffer.bytes ++ frame := by
  rw [Buffer.fill, List.append_assoc, List.take_append_drop]

theorem Buffer.chunks_bytes (buffer : Buffer size) :
    chunks size buffer.bytes = if buffer.bytes.isEmpty then [] else [buffer.bytes] := by
  cases empty : buffer.bytes.isEmpty with
  | true => rw [List.isEmpty_iff.mp empty, chunks_nil, if_pos rfl]
  | false =>
    rw [chunks_of_short (List.isEmpty_eq_false_iff.mp empty) buffer.short,
      if_neg Bool.false_ne_true]

section Cut

variable {buffer : Buffer size} {frame : Bytes}

theorem cut_done (done : frame.isEmpty = true) : cut buffer frame = ([], buffer) := by
  rw [cut, dif_pos done]

/-- A chunk that is taken out of the frame as it is. -/
theorem cut_whole (more : ¬ frame.isEmpty = true)
    (whole : (buffer.bytes.isEmpty && Bytes.atLeast size frame) = true) :
    cut buffer frame =
      (frame.take size :: (cut buffer (frame.drop size)).1, (cut buffer (frame.drop size)).2) := by
  rw [cut, dif_neg more, if_pos whole]

/-- A chunk that is filled up in the buffer. -/
theorem cut_full (more : ¬ frame.isEmpty = true)
    (partly : ¬ (buffer.bytes.isEmpty && Bytes.atLeast size frame) = true)
    (full : (buffer.fill frame).length = size) :
    cut buffer frame =
      (buffer.fill frame :: (cut buffer.emptied (frame.drop buffer.room)).1,
        (cut buffer.emptied (frame.drop buffer.room)).2) := by
  rw [cut, dif_neg more, if_neg partly, dif_pos full]

theorem cut_partly (more : ¬ frame.isEmpty = true)
    (partly : ¬ (buffer.bytes.isEmpty && Bytes.atLeast size frame) = true)
    (notFull : ¬ (buffer.fill frame).length = size) :
    cut buffer frame =
      cut ⟨buffer.fill frame, Nat.lt_of_le_of_ne (buffer.length_fill_le frame) notFull⟩
        (frame.drop buffer.room) := by
  rw [cut, dif_neg more, if_neg partly, dif_neg notFull]

end Cut

/-- The chunks cut off a frame are full. -/
theorem length_of_mem_cut {buffer : Buffer size} {frame piece : Bytes}
    (member : piece ∈ (cut buffer frame).1) : piece.length = size := by
  induction buffer, frame using cut.induct with
  | case1 buffer frame done =>
    rw [cut_done done] at member
    cases member
  | case2 buffer frame more whole _ _ _ ih =>
    rw [cut_whole more whole] at member
    rcases List.mem_cons.mp member with rfl | later
    · rw [Bool.and_eq_true, Bytes.atLeast_iff] at whole
      rw [List.length_take, Nat.min_eq_left whole.2]
    · exact ih later
  | case3 buffer frame more partly full _ _ _ ih =>
    rw [cut_full more partly full] at member
    rcases List.mem_cons.mp member with rfl | later
    · exact full
    · exact ih later
  | case4 buffer frame more partly notFull ih =>
    rw [cut_partly more partly notFull] at member
    exact ih member

/-- Whatever comes behind a frame, the chunks cut off it are the next ones of the file. -/
theorem chunks_cut (buffer : Buffer size) (frame rest : Bytes) :
    chunks size (buffer.bytes ++ (frame ++ rest)) =
      (cut buffer frame).1 ++ chunks size ((cut buffer frame).2.bytes ++ rest) := by
  induction buffer, frame using cut.induct with
  | case1 buffer frame done =>
    rw [cut_done done, List.isEmpty_iff.mp done]
    rfl
  | case2 buffer frame more whole _ _ _ ih =>
    rw [cut_whole more whole]
    rw [Bool.and_eq_true, Bytes.atLeast_iff] at whole
    have nothing : buffer.bytes = [] := List.isEmpty_iff.mp whole.1
    have isFull : (frame.take size).length = size := by
      rw [List.length_take, Nat.min_eq_left whole.2]
    have parts : buffer.bytes ++ (frame ++ rest) =
        frame.take size ++ (buffer.bytes ++ (frame.drop size ++ rest)) := by
      rw [nothing, List.nil_append, List.nil_append, ← List.append_assoc, List.take_append_drop]
    rw [parts, chunks_append buffer.positive isFull, ih, List.cons_append]
  | case3 buffer frame more partly full _ _ _ ih =>
    have parts : buffer.bytes ++ (frame ++ rest) =
        buffer.fill frame ++ (buffer.emptied.bytes ++ (frame.drop buffer.room ++ rest)) := by
      change _ = buffer.fill frame ++ (frame.drop buffer.room ++ rest)
      rw [← List.append_assoc, ← List.append_assoc, buffer.fill_append]
    rw [cut_full more partly full, parts, chunks_append buffer.positive full, ih,
      List.cons_append]
  | case4 buffer frame more partly notFull ih =>
    have parts : buffer.bytes ++ (frame ++ rest) =
        buffer.fill frame ++ (frame.drop buffer.room ++ rest) := by
      rw [← List.append_assoc, ← List.append_assoc, buffer.fill_append]
    rw [cut_partly more partly notFull, parts]
    exact ih

/-! ## Chunks that are full -/

/-- The chunks of a content but for one that is shorter. -/
def fullChunks (size : Nat) (bytes : Bytes) : List Bytes :=
  (chunks size bytes).filter fun piece => piece.length = size

theorem length_of_mem_fullChunks {piece : Bytes} (member : piece ∈ fullChunks size bytes) :
    piece.length = size :=
  of_decide_eq_true (List.mem_filter.mp member).2

theorem fullChunks_append {full : Bytes} (positive : 0 < size) (isFull : full.length = size)
    (rest : Bytes) : fullChunks size (full ++ rest) = full :: fullChunks size rest := by
  rw [fullChunks, chunks_append positive isFull, List.filter_cons, if_pos (decide_eq_true isFull)]
  rfl

theorem fullChunks_of_short (short : bytes.length < size) : fullChunks size bytes = [] := by
  refine List.filter_eq_nil_iff.mpr fun piece member => ?_
  by_cases empty : bytes = []
  · rw [empty, chunks_nil] at member
    cases member
  · rw [chunks_of_short empty short, List.mem_singleton] at member
    rw [member, decide_eq_true_eq]
    exact Nat.ne_of_lt short

/-- What is left behind the full chunks does not fill one more. -/
theorem exists_left (positive : 0 < size) (bytes : Bytes) :
    ∃ left, (fullChunks size bytes).flatten ++ left = bytes ∧ left.length < size := by
  induction bytes using chunks.induct size with
  | case1 bytes remains ih =>
    rcases Nat.lt_or_ge bytes.length size with short | long
    · exact ⟨bytes, by rw [fullChunks_of_short short]; rfl, short⟩
    · obtain ⟨left, whole, short⟩ := ih
      have isFull : (bytes.take size).length = size := by
        rw [List.length_take, Nat.min_eq_left long]
      have cut := fullChunks_append positive isFull (bytes.drop size)
      rw [List.take_append_drop] at cut
      refine ⟨left, ?_, short⟩
      rw [cut, List.flatten_cons, List.append_assoc, whole, List.take_append_drop]
  | case2 bytes atEnd =>
    have empty : bytes = [] := Decidable.not_not.mp fun more => atEnd ⟨positive, more⟩
    exact ⟨[], by rw [empty, fullChunks_of_short positive]; rfl, positive⟩

/-- Chunks that are full stay what they are, whatever comes behind them. -/
theorem fullChunks_prefix_chunks (positive : 0 < size) (bytes more : Bytes) :
    fullChunks size bytes <+: chunks size (bytes ++ more) := by
  induction bytes using chunks.induct size with
  | case1 bytes remains ih =>
    rcases Nat.lt_or_ge bytes.length size with short | long
    · rw [fullChunks_of_short short]
      exact List.nil_prefix
    · have isFull : (bytes.take size).length = size := by
        rw [List.length_take, Nat.min_eq_left long]
      rw [← List.take_append_drop size bytes, fullChunks_append positive isFull,
        List.append_assoc, chunks_append positive isFull]
      exact (List.prefix_cons_inj _).mpr ih
  | case2 bytes atEnd =>
    have empty : bytes = [] := Decidable.not_not.mp fun more => atEnd ⟨positive, more⟩
    rw [empty, fullChunks_of_short positive]
    exact List.nil_prefix

theorem fullChunks_prefix_fullChunks (positive : 0 < size) (bytes more : Bytes) :
    fullChunks size bytes <+: fullChunks size (bytes ++ more) := by
  have same : (fullChunks size bytes).filter (fun piece => piece.length = size) =
      fullChunks size bytes :=
    List.filter_eq_self.mpr fun _ member => decide_eq_true (length_of_mem_fullChunks member)
  rw [← same]
  exact (fullChunks_prefix_chunks positive bytes more).filter _

/-- What is cut off a frame are all full chunks up to there. -/
theorem fullChunks_cut (buffer : Buffer size) (frame rest : Bytes) :
    fullChunks size (buffer.bytes ++ (frame ++ rest)) =
      (cut buffer frame).1 ++ fullChunks size ((cut buffer frame).2.bytes ++ rest) := by
  have full : (cut buffer frame).1.filter (fun piece => piece.length = size) =
      (cut buffer frame).1 :=
    List.filter_eq_self.mpr fun _ member => decide_eq_true (length_of_mem_cut member)
  rw [fullChunks, chunks_cut, List.filter_append, full]
  rfl

end Upload

end Gatehouse
