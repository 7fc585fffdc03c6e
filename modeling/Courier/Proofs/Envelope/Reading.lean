import Courier.Envelope.Reader
import Courier.Envelope.Writer

/-!
# What an envelope stream says

A stream of envelopes is a sequence of chunks and end marks.  `Envelope.Reads` says
what a reader of some capacity makes of some bytes, by the form of the bytes alone:
which messages end among them, whether a chunk is too large, and what is left, the
chunks since the last end mark and the bytes of a chunk that is not all there.

A reader that is drained makes just this of its bytes (`EnvelopeReader.reads_drain`),
and bytes that come in several buffers are read as if they had come in one
(`EnvelopeReader.reads_feed`).
-/

namespace Courier

set_option autoImplicit false

namespace Envelope

/-- The chunk length that the first two bytes announce. -/
def announced (bytes : Bytes) : Nat := Bytes.toNatBE (bytes.take 2)

/-- The announced length stays in view when more bytes follow. -/
theorem announced_append {bytes : Bytes} (enough : 2 ≤ bytes.length) (more : Bytes) :
    announced (bytes ++ more) = announced bytes := by
  rw [announced, announced, List.take_append_of_le_length enough]

/-- A chunk announces its length. -/
theorem announced_chunk {content : Bytes} (small : content.length ≤ 65535) (rest : Bytes) :
    announced (chunk content ++ rest) = content.length := by
  have front : (chunk content ++ rest).take 2 = Bytes.ofNatBE 2 content.length := by
    rw [chunk, List.append_assoc]
    exact List.take_left' (Bytes.length_ofNatBE ..)
  rw [announced, front, Bytes.toNatBE_ofNatBE]
  exact Nat.mod_eq_of_lt (Nat.lt_succ_of_le small)

/-- Bytes that announce a length and are no fewer begin with a chunk of this length. -/
theorem chunk_of_announced {bytes : Bytes} (enough : 2 + announced bytes ≤ bytes.length) :
    bytes = chunk ((bytes.take (2 + announced bytes)).drop 2) ++
      bytes.drop (2 + announced bytes) := by
  obtain ⟨high, low, rest, rfl⟩ : ∃ high low rest, bytes = high :: low :: rest := by
    match bytes, enough with
    | high :: low :: rest, _ => exact ⟨high, low, rest, rfl⟩
    | [_], enough => simp at enough; omega
    | [], enough => simp at enough
  have number : announced (high :: low :: rest) = Bytes.toNatBE [high, low] := rfl
  have content : ((high :: low :: rest).take (2 + announced (high :: low :: rest))).drop 2 =
      rest.take (announced (high :: low :: rest)) := by
    rw [List.drop_take, Nat.add_sub_cancel_left]
    rfl
  have behind : (high :: low :: rest).drop (2 + announced (high :: low :: rest)) =
      rest.drop (announced (high :: low :: rest)) := by
    rw [← List.drop_drop]
    rfl
  have length : (rest.take (announced (high :: low :: rest))).length =
      announced (high :: low :: rest) := by
    rw [List.length_take]
    simp only [List.length_cons] at enough
    omega
  have spelled : Bytes.ofNatBE 2 (Bytes.toNatBE [high, low]) = [high, low] :=
    Bytes.ofNatBE_toNatBE [high, low]
  rw [content, behind, chunk, length, number, spelled, List.append_assoc, List.take_append_drop]
  rfl

/-! ## The form of a stream -/

/-- The bytes are a part of a chunk that fits the capacity: less than its length, or less than the
chunk whose length is there. -/
def Unfinished (capacity : ChunkCapacity) (bytes : Bytes) : Prop :=
  bytes.length < 2 ∨
    0 < announced bytes ∧ announced bytes ≤ capacity.size ∧ bytes.length < 2 + announced bytes

/-- What bytes say to a reader that has consumed the chunks of `begun` since the last end mark: the
messages that end among them, the fault if there is one, and then the message and the bytes that are
left. -/
inductive Reads (capacity : ChunkCapacity) : (begun bytes : Bytes) → (messages : List Bytes) →
    (fault : Option EnvelopeError) → (message left : Bytes) → Prop where
  /-- The next chunk is not all there. -/
  | wait {begun bytes : Bytes} (unfinished : Unfinished capacity bytes) :
      Reads capacity begun bytes [] none begun bytes
  /-- The next chunk is too large. -/
  | excess {begun bytes : Bytes} (enough : 2 ≤ bytes.length)
      (large : capacity.size < announced bytes) :
      Reads capacity begun bytes [] (some (.chunkTooLarge (announced bytes) capacity.size)) begun
        bytes
  | endMark {begun rest message left : Bytes} {messages : List Bytes}
      {fault : Option EnvelopeError} (later : Reads capacity [] rest messages fault message left) :
      Reads capacity begun (Envelope.endMark ++ rest) (begun :: messages) fault message left
  | chunk {begun content rest message left : Bytes} {messages : List Bytes}
      {fault : Option EnvelopeError} (nonempty : content ≠ [])
      (fits : content.length ≤ capacity.size)
      (later : Reads capacity (begun ++ content) rest messages fault message left) :
      Reads capacity begun (Envelope.chunk content ++ rest) messages fault message left

namespace Reads

variable {capacity : ChunkCapacity} {begun bytes message left : Bytes} {messages : List Bytes}
  {fault : EnvelopeError}

/-- Bytes that are read without a fault may be followed by others. -/
theorem append (first : Reads capacity begun bytes messages none message left) {more : Bytes}
    {others : List Bytes} {fault : Option EnvelopeError} {message' left' : Bytes}
    (second : Reads capacity message (left ++ more) others fault message' left') :
    Reads capacity begun (bytes ++ more) (messages ++ others) fault message' left' := by
  generalize quiet : (none : Option EnvelopeError) = fault' at first
  induction first with
  | wait => exact second
  | excess => cases quiet
  | endMark _ ih =>
    rw [List.append_assoc]
    exact .endMark (ih second quiet)
  | chunk nonempty fits _ ih =>
    rw [List.append_assoc]
    exact .chunk nonempty fits (ih second quiet)

/-- A fault stays, whatever follows. -/
theorem append_of_fault (reads : Reads capacity begun bytes messages (some fault) message left)
    (more : Bytes) :
    Reads capacity begun (bytes ++ more) messages (some fault) message (left ++ more) := by
  generalize found : some fault = fault' at reads
  induction reads with
  | wait => cases found
  | @excess begun bytes enough large =>
    rw [← announced_append enough more] at large ⊢
    exact .excess (Nat.le_trans enough (by simp)) large
  | endMark _ ih =>
    rw [List.append_assoc]
    exact .endMark (ih found)
  | chunk nonempty fits _ ih =>
    rw [List.append_assoc]
    exact .chunk nonempty fits (ih found)

/-- Where there is no fault, what is left is a part of a chunk. -/
theorem unfinished (reads : Reads capacity begun bytes messages none message left) :
    Unfinished capacity left := by
  generalize quiet : (none : Option EnvelopeError) = fault' at reads
  induction reads with
  | wait unfinished => exact unfinished
  | excess => cases quiet
  | endMark _ ih => exact ih quiet
  | chunk _ _ _ ih => exact ih quiet

/-- Where there is a fault, it is found again in what is left. -/
theorem again (reads : Reads capacity begun bytes messages (some fault) message left) :
    Reads capacity message left [] (some fault) message left := by
  generalize found : some fault = fault' at reads ⊢
  induction reads with
  | wait => cases found
  | excess enough large => exact .excess enough large
  | endMark _ ih => exact ih found
  | chunk _ _ _ ih => exact ih found

end Reads

/-! ## The form decides what is read -/

section Unique

variable {capacity : ChunkCapacity} {begun content rest message left : Bytes}
  {messages : List Bytes} {fault : Option EnvelopeError}

theorem announced_endMark (rest : Bytes) : announced (endMark ++ rest) = 0 :=
  announced_chunk (Nat.zero_le _) rest

theorem length_chunk (content : Bytes) : (chunk content).length = 2 + content.length := by
  simp [chunk]

theorem not_unfinished_endMark (rest : Bytes) : ¬ Unfinished capacity (endMark ++ rest) := by
  rintro (short | ⟨positive, _⟩)
  · have length := length_chunk []
    rw [List.length_append, endMark, length, List.length_nil] at short
    omega
  · rw [announced_endMark] at positive
    exact Nat.lt_irrefl _ positive

theorem not_unfinished_chunk (fits : content.length ≤ capacity.size) (rest : Bytes) :
    ¬ Unfinished capacity (chunk content ++ rest) := by
  have small := Nat.le_trans fits capacity.size_le
  have length : (chunk content ++ rest).length = 2 + content.length + rest.length := by
    rw [List.length_append, length_chunk]
  rintro (short | ⟨_, _, short⟩)
  · omega
  · rw [announced_chunk small] at short
    omega

/-- Bytes in front of which an end mark stands are read in one way. -/
theorem Reads.of_endMark
    (reads : Reads capacity begun (Envelope.endMark ++ rest) messages fault message left) :
    ∃ later, messages = begun :: later ∧ Reads capacity [] rest later fault message left := by
  generalize same : Envelope.endMark ++ rest = bytes at reads
  cases reads with
  | wait unfinished => exact absurd (same ▸ unfinished) (not_unfinished_endMark rest)
  | excess enough large =>
    rw [← same, announced_endMark] at large
    exact absurd large (Nat.not_lt_zero _)
  | endMark later =>
    rw [List.append_cancel_left_eq] at same
    exact ⟨_, rfl, same ▸ later⟩
  | @chunk _ content rest' _ _ _ _ nonempty fits later =>
    have small := Nat.le_trans fits capacity.size_le
    have number := congrArg announced same
    rw [announced_endMark, announced_chunk small] at number
    exact absurd (List.eq_nil_of_length_eq_zero number.symm) nonempty

/-- Bytes in front of which a chunk stands are read in one way. -/
theorem Reads.of_chunk (nonempty : content ≠ []) (fits : content.length ≤ capacity.size)
    (reads : Reads capacity begun (Envelope.chunk content ++ rest) messages fault message left) :
    Reads capacity (begun ++ content) rest messages fault message left := by
  have small := Nat.le_trans fits capacity.size_le
  generalize same : Envelope.chunk content ++ rest = bytes at reads
  cases reads with
  | wait unfinished => exact absurd (same ▸ unfinished) (not_unfinished_chunk fits rest)
  | excess enough large =>
    rw [← same, announced_chunk small] at large
    exact absurd fits (Nat.not_le_of_lt large)
  | endMark later =>
    have number := congrArg announced same
    rw [announced_endMark, announced_chunk small] at number
    exact absurd (List.eq_nil_of_length_eq_zero number) nonempty
  | @chunk _ content' rest' _ _ _ _ nonempty' fits' later =>
    have number := congrArg announced same
    rw [announced_chunk small, announced_chunk (Nat.le_trans fits' capacity.size_le)] at number
    obtain ⟨front, behind⟩ := List.append_inj same (by rw [length_chunk, length_chunk, number])
    rw [Envelope.chunk, Envelope.chunk, number, List.append_cancel_left_eq] at front
    subst front behind
    exact later

/-- **Bytes say one thing**: what is read of them depends on nothing else. -/
theorem Reads.unique {bytes : Bytes}
    (first : Reads capacity begun bytes messages fault message left)
    {messages' : List Bytes} {fault' : Option EnvelopeError} {message' left' : Bytes}
    (second : Reads capacity begun bytes messages' fault' message' left') :
    messages' = messages ∧ fault' = fault ∧ message' = message ∧ left' = left := by
  induction first generalizing messages' with
  | @wait begun bytes unfinished =>
    cases second with
    | wait => exact ⟨rfl, rfl, rfl, rfl⟩
    | excess enough large =>
      rcases unfinished with short | ⟨_, fits, _⟩
      · exact absurd enough (Nat.not_le_of_lt short)
      · exact absurd fits (Nat.not_le_of_lt large)
    | endMark => exact absurd unfinished (not_unfinished_endMark _)
    | chunk _ fits => exact absurd unfinished (not_unfinished_chunk fits _)
  | @excess begun bytes enough large =>
    cases second with
    | wait unfinished =>
      rcases unfinished with short | ⟨_, fits, _⟩
      · exact absurd enough (Nat.not_le_of_lt short)
      · exact absurd fits (Nat.not_le_of_lt large)
    | excess => exact ⟨rfl, rfl, rfl, rfl⟩
    | endMark =>
      rw [announced_endMark] at large
      exact absurd large (Nat.not_lt_zero _)
    | chunk _ fits =>
      rw [announced_chunk (Nat.le_trans fits capacity.size_le)] at large
      exact absurd fits (Nat.not_le_of_lt large)
  | endMark _ ih =>
    obtain ⟨later, rfl, reads⟩ := second.of_endMark
    obtain ⟨rfl, others⟩ := ih reads
    exact ⟨rfl, others⟩
  | chunk nonempty fits _ ih => exact ih (second.of_chunk nonempty fits)

end Unique

end Envelope

/-! ## Readers -/

namespace EnvelopeReader

open Envelope

variable {reader : EnvelopeReader}

theorem size_incoming (reader : EnvelopeReader) :
    reader.incoming.size = reader.pending.length := reader.incoming.length_toBytes.symm

theorem announced_eq (reader : EnvelopeReader) :
    reader.announced = Envelope.announced reader.pending := by
  rw [EnvelopeReader.announced, ByteQueue.take_eq]
  rfl

theorem chunk_eq (reader : EnvelopeReader) :
    reader.chunk =
      (reader.pending.take (2 + Envelope.announced reader.pending)).drop 2 := by
  rw [EnvelopeReader.chunk, ByteQueue.take_eq, announced_eq]
  rfl

@[simp] theorem capacity_next (reader : EnvelopeReader) :
    reader.next.2.capacity = reader.capacity := by
  fun_induction next reader with
  | case5 _ _ _ _ _ _ ih => exact ih
  | _ => rfl

/-- The message that was found, if one was. -/
def found : Except EnvelopeError (Option Bytes) → List Bytes
  | .ok (some message) => [message]
  | _ => []

section

variable {messages : List Bytes} {fault : Option EnvelopeError} {message left : Bytes}

/-- What is read behind the next message is read behind it. -/
theorem reads_next (later : Reads reader.capacity reader.next.2.message reader.next.2.pending
      messages fault message left) :
    Reads reader.capacity reader.message reader.pending (found reader.next.1 ++ messages) fault
      message left := by
  fun_induction next reader with
  | case1 reader ready short =>
    rw [← reader.pending_settled, ← reader.message_settled]
    exact later
  | case2 reader ready enough large =>
    rw [← reader.pending_settled, ← reader.message_settled]
    exact later
  | case3 reader ready enough fits zero =>
    rw [size_incoming] at enough
    rw [announced_eq] at zero
    have front := @chunk_of_announced ready.pending (by omega)
    rw [zero, Nat.add_zero, List.drop_take, Nat.sub_self, List.take_zero] at front
    rw [pending_afterEnd, message_afterEnd] at later
    rw [← reader.pending_settled, front]
    exact .endMark later
  | case4 reader ready enough fits nonzero unfinished =>
    rw [← reader.pending_settled, ← reader.message_settled]
    exact later
  | case5 reader ready enough fits nonzero whole ih =>
    have read := ih later
    rw [size_incoming, announced_eq] at whole
    rw [announced_eq] at fits nonzero
    rw [message_afterChunk, pending_afterChunk, announced_eq, chunk_eq] at read
    rw [← reader.pending_settled, ← reader.message_settled,
      chunk_of_announced (Nat.le_of_not_lt whole)]
    have length : ((ready.pending.take (2 + Envelope.announced ready.pending)).drop 2).length =
        Envelope.announced ready.pending := by
      rw [List.length_drop, List.length_take]
      omega
    exact .chunk (fun none => nonzero (by rw [← length, none]; rfl))
      (Nat.le_of_not_lt (length.symm ▸ fits)) read

/-- A reader without a next message holds a part of a chunk. -/
theorem unfinished_next (none : reader.next.1 = .ok .none) :
    Unfinished reader.capacity reader.next.2.pending := by
  fun_induction next reader with
  | case1 reader ready short =>
    rw [size_incoming] at short
    exact .inl short
  | case2 => cases none
  | case3 => cases none
  | case4 reader ready enough fits nonzero unfinished =>
    rw [size_incoming, announced_eq] at unfinished
    rw [announced_eq] at fits nonzero
    exact .inr ⟨Nat.pos_of_ne_zero nonzero, Nat.le_of_not_lt fits, unfinished⟩
  | case5 reader ready enough fits nonzero whole ih => exact ih none

/-- A reader that holds a part of a chunk has no next message. -/
theorem next_of_unfinished (unfinished : Unfinished reader.capacity reader.pending) :
    reader.next = (.ok none, reader.settled) := by
  rw [next, size_incoming_settled, size_incoming, announced_settled, announced_eq]
  by_cases short : reader.pending.length < 2
  · exact if_pos short
  · obtain few | ⟨positive, fits, part⟩ := unfinished
    · exact absurd few short
    · have capacity : ¬ reader.settled.capacity.size < Envelope.announced reader.pending :=
        Nat.not_lt_of_le fits
      rw [if_neg short, if_neg capacity, if_neg (Nat.ne_of_gt positive), if_pos part]

/-- At the end a reader with a part of a chunk gives the fault that the chunk is not all there, or,
where there is no byte of a chunk, the message that has begun. -/
theorem finish_of_unfinished (unfinished : Unfinished reader.capacity reader.pending) :
    reader.finish.1 =
      if reader.pending ≠ [] then .error (.truncatedChunk reader.pending.length)
      else if reader.message = [] then .ok none else .ok (some reader.message) := by
  rw [finish, next_of_unfinished unfinished]
  simp only [size_incoming, message_settled, ne_eq, List.length_eq_zero_iff]
  by_cases left : reader.pending = []
  · by_cases begun : reader.message = [] <;> simp [left, begun]
  · simp [left]

/-- A reader at a fault finds it in what it holds. -/
theorem reads_fault {fault : EnvelopeError} (faulty : reader.next.1 = .error fault) :
    Reads reader.capacity reader.next.2.message reader.next.2.pending [] (some fault)
      reader.next.2.message reader.next.2.pending := by
  fun_induction next reader with
  | case1 => cases faulty
  | case2 reader ready enough large =>
    obtain rfl := Except.error.inj faulty
    rw [size_incoming] at enough
    rw [announced_eq] at large ⊢
    exact .excess (Nat.le_of_not_lt enough) large
  | case3 => cases faulty
  | case4 => cases faulty
  | case5 reader ready enough fits nonzero whole ih => exact ih faulty

end

@[simp] theorem capacity_drain (reader : EnvelopeReader) :
    reader.drain.2.2.capacity = reader.capacity := by
  fun_induction drain reader with
  | case1 reader message found messages fault rest drained ih =>
    rw [drained] at ih
    exact ih.trans reader.capacity_next
  | case2 reader none => exact reader.capacity_next
  | case3 reader fault found => exact reader.capacity_next

/-- **A reader that is drained makes of its bytes what they say.** -/
theorem reads_drain (reader : EnvelopeReader) :
    Reads reader.capacity reader.message reader.pending reader.drain.1 reader.drain.2.1
      reader.drain.2.2.message reader.drain.2.2.pending := by
  fun_induction drain reader with
  | case1 reader message found messages fault rest drained ih =>
    rw [drained, capacity_next] at ih
    have read := reads_next ih
    rwa [found] at read
  | case2 reader none =>
    have read := reads_next (.wait (unfinished_next none))
    rwa [none] at read
  | case3 reader fault faulty =>
    have read := reads_next (reads_fault faulty)
    rwa [faulty] at read

/-- A reader that is at a fault finds nothing else, whatever follows. -/
theorem drain_of_fault {reader : EnvelopeReader} {fault : EnvelopeError}
    (faulty : Reads reader.capacity reader.message reader.pending [] (some fault) reader.message
      reader.pending) (more : Bytes) :
    (reader.push more).drain.1 = [] ∧ (reader.push more).drain.2.1 = some fault := by
  have read := (reader.push more).reads_drain
  rw [message_push, pending_push] at read
  obtain ⟨nothing, found, _⟩ := (faulty.append_of_fault more).unique read
  exact ⟨nothing, found⟩

/-! ## Buffers -/

/-- What a reader that is drained after each of several buffers makes of them.  After the first
fault nothing more is read. -/
def feed (reader : EnvelopeReader) :
    List Bytes → List Bytes × Option EnvelopeError × EnvelopeReader
  | [] => ([], none, reader)
  | buffer :: buffers =>
    match (reader.push buffer).drain with
    | (messages, some fault, after) => (messages, some fault, after)
    | (messages, none, after) => (messages ++ (after.feed buffers).1, (after.feed buffers).2)

@[simp] theorem capacity_feed (reader : EnvelopeReader) (buffers : List Bytes) :
    (reader.feed buffers).2.2.capacity = reader.capacity := by
  induction buffers generalizing reader with
  | nil => rfl
  | cons buffer buffers ih =>
    have capacity := (reader.push buffer).capacity_drain
    rw [feed]
    generalize (reader.push buffer).drain = drained at capacity
    obtain ⟨messages, _ | fault, after⟩ := drained
    · exact (ih after).trans capacity
    · exact capacity

/-- A reader that has come to a fault finds it in what it holds. -/
theorem reads_of_fault {buffers : List Bytes} {fault : EnvelopeError}
    (faulty : (reader.feed buffers).2.1 = some fault) :
    Reads (reader.feed buffers).2.2.capacity (reader.feed buffers).2.2.message
      (reader.feed buffers).2.2.pending [] (some fault) (reader.feed buffers).2.2.message
      (reader.feed buffers).2.2.pending := by
  rw [capacity_feed]
  induction buffers generalizing reader with
  | nil => cases faulty
  | cons buffer buffers ih =>
    have read := (reader.push buffer).reads_drain
    have capacity := (reader.push buffer).capacity_drain
    rw [feed] at faulty ⊢
    generalize (reader.push buffer).drain = drained at faulty read capacity ⊢
    obtain ⟨messages, _ | found, after⟩ := drained
    · exact capacity ▸ ih faulty
    · obtain rfl := Option.some.inj faulty
      exact read.again

/-- **Several buffers are read as their bytes are in one piece.**  The reader holds no more than a
part of a chunk before.  Where there is a fault, the bytes of the buffers behind it are left. -/
theorem reads_feed (reader : EnvelopeReader)
    (unfinished : Unfinished reader.capacity reader.pending) (buffers : List Bytes) :
    ∃ unread, Reads reader.capacity reader.message (reader.pending ++ buffers.flatten)
        (reader.feed buffers).1 (reader.feed buffers).2.1 (reader.feed buffers).2.2.message
        ((reader.feed buffers).2.2.pending ++ unread) ∧
      ((reader.feed buffers).2.1 = none → unread = []) := by
  induction buffers generalizing reader with
  | nil =>
    refine ⟨[], ?_, fun _ => rfl⟩
    rw [List.flatten_nil, List.append_nil, feed, List.append_nil]
    exact .wait unfinished
  | cons buffer buffers ih =>
    have read := (reader.push buffer).reads_drain
    have capacity := (reader.push buffer).capacity_drain
    rw [message_push, pending_push] at read
    rw [List.flatten_cons, ← List.append_assoc, feed]
    generalize (reader.push buffer).drain = drained at read capacity
    obtain ⟨messages, fault, after⟩ := drained
    cases fault with
    | some fault => exact ⟨buffers.flatten, read.append_of_fault _, fun quiet => by cases quiet⟩
    | none =>
      change after.capacity = reader.capacity at capacity
      obtain ⟨unread, later, all⟩ := ih after (capacity ▸ read.unfinished)
      rw [capacity] at later
      exact ⟨unread, read.append later, all⟩

/-- Where several buffers are read without a fault, a part of a chunk is left. -/
theorem unfinished_feed {reader : EnvelopeReader} {buffers : List Bytes}
    (unfinished : Unfinished reader.capacity reader.pending)
    (quiet : (reader.feed buffers).2.1 = none) :
    Unfinished (reader.feed buffers).2.2.capacity (reader.feed buffers).2.2.pending := by
  obtain ⟨unread, reads, all⟩ := reads_feed reader unfinished buffers
  rw [quiet, all quiet, List.append_nil] at reads
  rw [capacity_feed]
  exact reads.unfinished

theorem unfinished_new (capacity : ChunkCapacity) :
    Unfinished (new capacity).capacity (new capacity).pending := .inl Nat.zero_lt_two

/-- What a new reader makes of several buffers, by what their bytes say. -/
theorem reads_feed_new (capacity : ChunkCapacity) (buffers : List Bytes) :
    ∃ unread, Reads capacity [] buffers.flatten ((new capacity).feed buffers).1
        ((new capacity).feed buffers).2.1 ((new capacity).feed buffers).2.2.message
        (((new capacity).feed buffers).2.2.pending ++ unread) ∧
      (((new capacity).feed buffers).2.1 = none → unread = []) :=
  reads_feed (new capacity) (unfinished_new capacity) buffers

end EnvelopeReader

end Courier
