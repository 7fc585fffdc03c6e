import Courier.Proofs.Envelope.Reading

/-!
# The end of an envelope stream

Any bytes divide into chunks that fit a capacity and something behind them that is no such chunk
(`Envelope.Divides`): a part of one, or one that is too large.  The contents of the chunks make up
the messages, of which the last may lack its end mark (`Envelope.assemble`).

What a reader gives for the bytes, and what it answers when the stream ends behind them, can be said
with the division alone (`EnvelopeReader.feed_finish`).  So it does not depend on how the bytes were
cut into buffers, whether they are in order or not.
-/

namespace Courier

set_option autoImplicit false

namespace Envelope

/-! ## The chunks of a stream -/

/-- The bytes are chunks of these contents, and behind them what is left.  A chunk without content is
an end mark. -/
structure Divides (capacity : ChunkCapacity) (bytes : Bytes) (contents : List Bytes)
    (left : Bytes) : Prop where
  whole : bytes = contents.flatMap chunk ++ left
  fit : ∀ content ∈ contents, content.length ≤ capacity.size
  /-- What is left is a part of a chunk, or begins one that is too large. -/
  last : Unfinished capacity left ∨ 2 ≤ left.length ∧ capacity.size < announced left

/-- The messages that contents of chunks make up behind those of `begun`, and the message that is
without its end mark. -/
def assemble (begun : Bytes) : List Bytes → List Bytes × Bytes
  | [] => ([], begun)
  | [] :: later => (begun :: (assemble [] later).1, (assemble [] later).2)
  | content :: later => assemble (begun ++ content) later

/-- The fault of a chunk that is too large, if one is at the front. -/
def excess? (capacity : ChunkCapacity) (left : Bytes) : Option EnvelopeError :=
  if 2 ≤ left.length ∧ capacity.size < announced left then
    some (.chunkTooLarge (announced left) capacity.size)
  else none

/-- No content of a chunk is lost or given twice. -/
theorem flatten_assemble (begun : Bytes) (contents : List Bytes) :
    (assemble begun contents).1.flatten ++ (assemble begun contents).2 =
      begun ++ contents.flatten := by
  fun_induction assemble begun contents with
  | case1 begun => simp
  | case2 begun later ih => simpa using ih
  | case3 begun content later nonempty ih => simpa using ih

theorem excess?_of_unfinished {capacity : ChunkCapacity} {left : Bytes}
    (unfinished : Unfinished capacity left) : excess? capacity left = none := by
  apply if_neg
  rintro ⟨enough, large⟩
  rcases unfinished with short | ⟨_, fits, _⟩
  · exact absurd enough (Nat.not_le_of_lt short)
  · exact absurd fits (Nat.not_le_of_lt large)

section

variable {capacity : ChunkCapacity} {bytes left : Bytes} {contents : List Bytes}

/-- The division of the bytes says what is read of them. -/
theorem Divides.reads (divides : Divides capacity bytes contents left) (begun : Bytes) :
    Reads capacity begun bytes (assemble begun contents).1 (excess? capacity left)
      (assemble begun contents).2 left := by
  obtain ⟨rfl, fit, last⟩ := divides
  induction contents generalizing begun with
  | nil =>
    rcases last with unfinished | ⟨enough, large⟩
    · rw [excess?_of_unfinished unfinished]
      exact .wait unfinished
    · rw [excess?, if_pos ⟨enough, large⟩]
      exact .excess enough large
  | cons content contents ih =>
    obtain ⟨first, others⟩ := List.forall_mem_cons.mp fit
    have later := fun begun => ih begun others
    rw [List.flatMap_cons, List.append_assoc]
    cases content with
    | nil => exact .endMark (later [])
    | cons byte content =>
      exact .chunk (List.cons_ne_nil _ _) first (later _)

/-- What is read of some bytes divides them. -/
theorem Reads.exists_divides {begun message : Bytes} {messages : List Bytes}
    {fault : Option EnvelopeError} (reads : Reads capacity begun bytes messages fault message left) :
    ∃ contents, Divides capacity bytes contents left := by
  induction reads with
  | wait unfinished => exact ⟨[], rfl, nofun, .inl unfinished⟩
  | excess enough large => exact ⟨[], rfl, nofun, .inr ⟨enough, large⟩⟩
  | endMark _ ih =>
    obtain ⟨contents, rfl, fit, last⟩ := ih
    refine ⟨[] :: contents, by simp [Envelope.endMark], ?_, last⟩
    exact List.forall_mem_cons.mpr ⟨Nat.zero_le _, fit⟩
  | @chunk _ content _ _ _ _ _ _ fits _ ih =>
    obtain ⟨contents, rfl, fit, last⟩ := ih
    exact ⟨content :: contents, by simp, List.forall_mem_cons.mpr ⟨fits, fit⟩, last⟩

end

end Envelope

namespace EnvelopeReader

open Envelope

/-! ## Readers -/

section

variable {capacity : ChunkCapacity} {buffers : List Bytes}

/-- Any bytes divide. -/
theorem exists_divides (capacity : ChunkCapacity) (bytes : Bytes) :
    ∃ contents left, Divides capacity bytes contents left := by
  obtain ⟨unread, reads, -⟩ := reads_feed_new capacity [bytes]
  rw [List.flatten_singleton] at reads
  obtain ⟨contents, divides⟩ := reads.exists_divides
  exact ⟨contents, _, divides⟩

/-- The division of the bytes says which messages are read, whether there is a fault, and what the
reader answers at the end if there is none. -/
theorem feed_of_divides {contents : List Bytes} {left : Bytes}
    (divides : Divides capacity buffers.flatten contents left) :
    let read := (new capacity).feed buffers
    let assembled := assemble [] contents
    read.1 = assembled.1 ∧ read.2.1 = excess? capacity left ∧
      (read.2.1 = none →
        read.2.2.finish.1 =
          if left ≠ [] then .error (.truncatedChunk left.length)
          else if assembled.2 = [] then .ok none else .ok (some assembled.2)) := by
  intro read assembled
  obtain ⟨unread, reads, all⟩ := reads_feed_new capacity buffers
  obtain ⟨messages, fault, message, pending⟩ := (divides.reads []).unique reads
  refine ⟨messages, fault, ?_⟩
  intro quiet
  rw [all quiet, List.append_nil] at pending
  rw [finish_of_unfinished (unfinished_feed (unfinished_new capacity) quiet), pending, message]

end

/-- **What a reader gives for a stream, and what it answers at its end, depends on the bytes
alone.**  Two ways of cutting them give the same messages, the same first fault, which stays whatever
follows, and without one the same end.  The messages are made up of the contents of the chunks in
order, and at the end a chunk that is not all there is told by the number of its bytes; otherwise the
message that has begun is given, if it is not empty. -/
theorem feed_finish (size : Nat) {buffers buffers' : List Bytes}
    (same : buffers'.flatten = buffers.flatten) :
    let capacity : ChunkCapacity := .clamp size
    let read := (new capacity).feed buffers
    let read' := (new capacity).feed buffers'
    (read'.1 = read.1 ∧ read'.2.1 = read.2.1 ∧
      (read.2.1 = none → read'.2.2.finish.1 = read.2.2.finish.1)) ∧
    (∀ fault, read.2.1 = some fault → ∀ more, (read.2.2.push more).drain.1 = [] ∧
      (read.2.2.push more).drain.2.1 = some fault) ∧
    (∃ contents left, Divides capacity buffers.flatten contents left) ∧
    ∀ contents left, Divides capacity buffers.flatten contents left →
      let assembled := assemble [] contents
      read.1 = assembled.1 ∧ read.2.1 = excess? capacity left ∧
        read.1.flatten ++ assembled.2 = contents.flatten ∧
        (read.2.1 = none →
          read.2.2.finish.1 =
            if left ≠ [] then .error (.truncatedChunk left.length)
            else if assembled.2 = [] then .ok none else .ok (some assembled.2)) := by
  intro capacity read read'
  have division := exists_divides capacity buffers.flatten
  refine ⟨?_, ?_, division, ?_⟩
  · obtain ⟨contents, left, divides⟩ := division
    obtain ⟨messages, fault, ending⟩ := feed_of_divides divides
    obtain ⟨messages', fault', ending'⟩ := feed_of_divides (same ▸ divides)
    have agree : read'.2.1 = read.2.1 := fault'.trans fault.symm
    refine ⟨messages'.trans messages.symm, agree, ?_⟩
    intro quiet
    exact (ending' (agree.trans quiet)).trans (ending quiet).symm
  · intro fault faulty
    exact drain_of_fault (reads_of_fault faulty)
  · intro contents left divides assembled
    obtain ⟨messages, fault, ending⟩ := feed_of_divides divides
    refine ⟨messages, fault, ?_, ending⟩
    rw [messages, flatten_assemble, List.nil_append]

/-- A message, the empty one, one without its end mark and three bytes of a chunk of nine. -/
theorem feed_finish_truncated :
    let whole : Bytes := [0, 1, 7, 0, 0, 0, 0, 0, 1, 8, 0, 9, 5]
    let buffers : List Bytes := [whole.take 4, [], (whole.drop 4).take 7, whole.drop 11]
    [whole].flatten = buffers.flatten ∧
      ((new (.clamp 9)).feed buffers).1 = [[7], []] ∧
      ((new (.clamp 9)).feed buffers).2.1 = none ∧
      ((new (.clamp 9)).feed buffers).2.2.finish.1 = .error (.truncatedChunk 3) ∧
      ((new (.clamp 9)).feed [whole]).2.2.finish.1 = .error (.truncatedChunk 3) := by
  intro whole buffers
  have same : [whole].flatten = buffers.flatten := by decide
  have divides : Divides (.clamp 9) buffers.flatten [[7], [], [], [8]] [0, 9, 5] :=
    ⟨by decide +kernel, by decide, .inl (.inr (by decide))⟩
  obtain ⟨⟨-, -, agree⟩, -, -, read⟩ := feed_finish 9 same
  obtain ⟨messages, fault, -, ending⟩ := read _ _ divides
  have quiet := fault.trans (excess?_of_unfinished (.inr (by decide)))
  exact ⟨same, messages, quiet, ending quiet, (agree quiet).trans (ending quiet)⟩

end EnvelopeReader

end Courier
