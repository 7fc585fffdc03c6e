import Courier.Proofs.Envelope.Reading

/-!
# Message boundaries across a stream

A writer and a reader of envelopes have each a capacity of their own.  A message
crosses if the first chunk that the writer makes of it fits the reader; no later
chunk of it is longer.  The reader gives just the messages in front of the first one
that does not cross, as they were written and however their bytes are cut, and there
it finds a chunk that is too large (`EnvelopeReader.feed_written`).
-/

namespace Courier

set_option autoImplicit false

/-! ## Writing several messages -/

namespace EnvelopeWriter

/-- A writer after several writes. -/
def writeAll (writer : EnvelopeWriter) (pieces : List Bytes) : EnvelopeWriter :=
  pieces.foldl write writer

/-- What a writer puts on the stream for several messages, each made of several writes. -/
def emit (writer : EnvelopeWriter) : List (List Bytes) → Bytes
  | [] => []
  | pieces :: rest =>
    (writer.writeAll pieces).closeMessage.1 ++ emit (writer.writeAll pieces).closeMessage.2 rest

theorem writeAll_eq (writer : EnvelopeWriter) (pieces : List Bytes) :
    writer.writeAll pieces = ⟨writer.capacity, writer.pending ++ pieces.flatten⟩ := by
  unfold writeAll
  induction pieces generalizing writer with
  | nil => simp
  | cons piece pieces ih => simp [ih, write]

/-- The writes that a message is made of cannot be seen on the stream. -/
theorem emit_new (capacity : ChunkCapacity) (messages : List (List Bytes)) :
    (new capacity).emit messages =
      (messages.map List.flatten).flatMap (Envelope.encode capacity) := by
  induction messages with
  | nil => rfl
  | cons pieces messages ih =>
    rw [emit, writeAll_eq]
    exact congrArg (Envelope.encode capacity pieces.flatten ++ ·) ih

end EnvelopeWriter

/-! ## One message -/

namespace Envelope

/-- The length of the first chunk that a writer makes of a message. -/
def firstChunk (capacity : ChunkCapacity) (message : Bytes) : Nat :=
  min message.length capacity.size

/-- The chunks that a writer makes of a message fit a reader. -/
def Crosses (writer reader : ChunkCapacity) (message : Bytes) : Prop :=
  firstChunk writer message ≤ reader.size

instance (writer reader : ChunkCapacity) (message : Bytes) :
    Decidable (Crosses writer reader message) := inferInstanceAs (Decidable (_ ≤ _))

section

variable {writer reader : ChunkCapacity} {begun body rest message left : Bytes}
  {messages : List Bytes} {fault : Option EnvelopeError}

theorem length_take_chunk (capacity : ChunkCapacity) (message : Bytes) :
    (message.take capacity.size).length = firstChunk capacity message := by
  rw [List.length_take, firstChunk, Nat.min_comm]

/-- The chunks of a message that crosses are read as the message. -/
theorem Reads.chunks (crosses : Crosses writer reader body)
    (later : Reads reader (begun ++ body) rest messages fault message left) :
    Reads reader begun (Envelope.chunks writer body ++ rest) messages fault message left := by
  fun_induction Envelope.chunks writer body generalizing begun with
  | case1 => simpa using later
  | case2 body nonempty ih =>
    have smaller : Crosses writer reader (body.drop writer.size) := by
      unfold Crosses firstChunk at crosses ⊢
      rw [List.length_drop]
      omega
    rw [List.append_assoc]
    refine .chunk ?_ (length_take_chunk writer body ▸ crosses) (ih smaller ?_)
    · intro none
      rcases List.take_eq_nil_iff.mp none with zero | empty
      · exact Nat.lt_irrefl 0 (zero ▸ writer.size_pos)
      · exact nonempty empty
    · rwa [List.append_assoc, List.take_append_drop]

/-- A message that crosses is read as it was written. -/
theorem Reads.encode (crosses : Crosses writer reader body)
    (later : Reads reader [] rest messages fault message left) :
    Reads reader begun (Envelope.encode writer body ++ rest) ((begun ++ body) :: messages) fault
      message left := by
  rw [Envelope.encode, List.append_assoc]
  exact .chunks crosses (.endMark later)

/-- The first chunk of a message that does not cross is too large. -/
theorem Reads.encode_excess (excess : ¬ Crosses writer reader body) (begun rest : Bytes) :
    Reads reader begun (Envelope.encode writer body ++ rest) []
      (some (.chunkTooLarge (firstChunk writer body) reader.size)) begun
      (Envelope.encode writer body ++ rest) := by
  have large : reader.size < firstChunk writer body := Nat.lt_of_not_le excess
  have nonempty : body ≠ [] := by
    rintro rfl
    exact Nat.not_lt_zero _ (Nat.lt_of_lt_of_le large (Nat.min_le_left ..))
  have front : Envelope.encode writer body ++ rest =
      Envelope.chunk (body.take writer.size) ++
        (Envelope.chunks writer (body.drop writer.size) ++ (Envelope.endMark ++ rest)) := by
    rw [Envelope.encode, Envelope.chunks, if_neg nonempty]
    simp only [List.append_assoc]
  have small : (body.take writer.size).length ≤ 65535 :=
    Nat.le_trans (List.length_take_le ..) writer.size_le
  have number : announced (Envelope.encode writer body ++ rest) = firstChunk writer body := by
    rw [front, announced_chunk small, length_take_chunk]
  have enough : 2 ≤ (Envelope.encode writer body ++ rest).length := by
    rw [front, List.length_append, length_chunk]
    omega
  rw [← number] at large ⊢
  exact .excess enough large

end

/-! ## Several messages -/

/-- What a reader finds at the first message that does not cross, if there is one. -/
def fault? (writer reader : ChunkCapacity) (messages : List Bytes) : Option EnvelopeError :=
  (messages.find? fun message => reader.size < firstChunk writer message).map fun message =>
    .chunkTooLarge (firstChunk writer message) reader.size

/-- The bytes of several messages are read up to the first message that does not cross. -/
theorem reads_flatMap_encode (writer reader : ChunkCapacity) (messages : List Bytes) :
    ∃ left, Reads reader [] (messages.flatMap (encode writer))
        (messages.takeWhile (Crosses writer reader ·)) (fault? writer reader messages) [] left ∧
      (fault? writer reader messages = none →
        left = [] ∧ messages.takeWhile (Crosses writer reader ·) = messages) := by
  induction messages with
  | nil => exact ⟨[], .wait (.inl Nat.zero_lt_two), fun _ => ⟨rfl, rfl⟩⟩
  | cons body messages ih =>
    rw [List.flatMap_cons]
    by_cases crosses : Crosses writer reader body
    · obtain ⟨left, later, all⟩ := ih
      have fits : ¬ reader.size < firstChunk writer body := Nat.not_lt_of_le crosses
      have same : fault? writer reader (body :: messages) = fault? writer reader messages := by
        rw [fault?, List.find?_cons_of_neg (by simpa using fits), fault?]
      rw [same, List.takeWhile_cons_of_pos (by exact decide_eq_true crosses)]
      refine ⟨left, .encode crosses later, fun quiet => ?_⟩
      obtain ⟨nothing, whole⟩ := all quiet
      exact ⟨nothing, congrArg (body :: ·) whole⟩
    · have large : reader.size < firstChunk writer body := Nat.lt_of_not_le crosses
      have found : fault? writer reader (body :: messages) =
          some (.chunkTooLarge (firstChunk writer body) reader.size) := by
        rw [fault?, List.find?_cons_of_pos (by exact decide_eq_true large)]
        rfl
      rw [found, List.takeWhile_cons_of_neg (by simpa using crosses)]
      exact ⟨_, .encode_excess crosses [] _, fun quiet => by cases quiet⟩

end Envelope

/-! ## Readers -/

namespace EnvelopeReader

open Envelope

/-- A reader that holds nothing has nothing to say at the end. -/
theorem finish_of_empty {reader : EnvelopeReader} (message : reader.message = [])
    (pending : reader.pending = []) : reader.finish.1 = .ok none := by
  rw [finish_of_unfinished (.inl (by rw [pending]; exact Nat.zero_lt_two)), message, pending]
  rfl

/-- **Messages come out as they were written, however their bytes are cut, up to the first one of
which a chunk is too large for the reader.**  There the reader finds the length of this chunk, and
finds it again whatever follows.  Without such a message all come out, and nothing is left. -/
theorem feed_written (writerSize readerSize : Nat) {messages : List (List Bytes)}
    {buffers : List Bytes}
    (cut : buffers.flatten = (EnvelopeWriter.new (.clamp writerSize)).emit messages) :
    let writer : ChunkCapacity := .clamp writerSize
    let reader : ChunkCapacity := .clamp readerSize
    let bodies := messages.map List.flatten
    let read := (new reader).feed buffers
    read.1 = bodies.takeWhile (fun body => min body.length writer.size ≤ reader.size) ∧
      read.2.1 = (bodies.find? fun body => reader.size < min body.length writer.size).map
        (fun body => .chunkTooLarge (min body.length writer.size) reader.size) ∧
      (∀ fault, read.2.1 = some fault → ∀ more, (read.2.2.push more).drain.1 = [] ∧
        (read.2.2.push more).drain.2.1 = some fault) ∧
      (read.2.1 = none → read.1 = bodies ∧ read.2.2.finish.1 = .ok none) := by
  intro writer reader bodies read
  obtain ⟨unread, fed, all⟩ := reads_feed (new reader) (.inl Nat.zero_lt_two) buffers
  obtain ⟨left, said, whole⟩ := reads_flatMap_encode writer reader bodies
  have bytes : (new reader).pending ++ buffers.flatten = bodies.flatMap (encode writer) :=
    cut.trans (EnvelopeWriter.emit_new writer messages)
  rw [bytes] at fed
  obtain ⟨out, ended, message, rest⟩ := said.unique fed
  refine ⟨out, ended, fun fault faulty more => ?_, fun quiet => ?_⟩
  · exact drain_of_fault (reads_of_fault faulty) more
  · obtain ⟨nothing, every⟩ := whole (ended.symm.trans quiet)
    rw [nothing, all quiet, List.append_nil] at rest
    exact ⟨out.trans every, finish_of_empty message rest⟩

/-- Four messages: one of two writes, the empty one, one of two chunks where four bytes are a chunk,
and a last one. -/
def letters : List (List Bytes) := [[[1], [2, 3]], [], [[4, 5, 6], [7, 8]], [[9]]]

/-- Their bytes in buffers that end within a length and within a chunk, one of them empty. -/
def cuttings : List Bytes :=
  let bytes := (EnvelopeWriter.new (.clamp 4)).emit letters
  [bytes.take 1, (bytes.drop 1).take 3, [], (bytes.drop 4).take 6, (bytes.drop 10).take 4,
    bytes.drop 14]

/-- A reader of chunks of three bytes stops at the third message; one that reads longer chunks gives
all four. -/
theorem feed_written_cuttings :
    cuttings.flatten = (EnvelopeWriter.new (.clamp 4)).emit letters ∧
      ((new (.clamp 3)).feed cuttings).1 = [[1, 2, 3], []] ∧
      ((new (.clamp 3)).feed cuttings).2.1 = some (.chunkTooLarge 4 3) ∧
      ((new (.clamp 70000)).feed cuttings).1 = [[1, 2, 3], [], [4, 5, 6, 7, 8], [9]] ∧
      ((new (.clamp 70000)).feed cuttings).2.1 = none ∧
      ((new (.clamp 70000)).feed cuttings).2.2.finish.1 = .ok none := by
  have cut : cuttings.flatten = (EnvelopeWriter.new (.clamp 4)).emit letters := by decide +kernel
  obtain ⟨early, fault, _⟩ := feed_written 4 3 cut
  obtain ⟨all, quiet, _, ended⟩ := feed_written 4 70000 cut
  exact ⟨cut, early, fault, all, quiet, (ended quiet).2⟩

end EnvelopeReader

end Courier
