import Courier.Bytes.Queue
import Courier.Envelope.Capacity

/-!
# Reading enveloped messages

The reader keeps the bytes of the stream that it has not consumed, and the
whole chunks consumed since the last end mark, which make up the message so
far.

A chunk that announces more than the capacity is a fault that stays: its bytes
are left where they are.  At the end of the stream a message without its end
mark is still given, while a chunk that is only partly there is a fault.

In the interface of the runtime `next` is `next_message`.
-/

namespace Courier

set_option autoImplicit false

structure EnvelopeReader where
  capacity : ChunkCapacity
  /-- What has come in and is not consumed. -/
  incoming : ByteQueue
  /-- The chunks consumed since the last end mark, the last one first. -/
  chunks : List Bytes
deriving DecidableEq

namespace EnvelopeReader

def new (capacity : ChunkCapacity) : EnvelopeReader := ⟨capacity, .empty, []⟩

/-- The bytes not yet consumed. -/
def pending (reader : EnvelopeReader) : Bytes := reader.incoming.toBytes

/-- The message as far as its chunks have been consumed. -/
def message (reader : EnvelopeReader) : Bytes := reader.chunks.reverse.flatten

/-- More bytes of the stream. -/
def push (reader : EnvelopeReader) (bytes : Bytes) : EnvelopeReader :=
  { reader with incoming := reader.incoming.push bytes }

@[simp] theorem pending_push (reader : EnvelopeReader) (bytes : Bytes) :
    (reader.push bytes).pending = reader.pending ++ bytes := by
  simp [pending, push]

@[simp] theorem message_push (reader : EnvelopeReader) (bytes : Bytes) :
    (reader.push bytes).message = reader.message := rfl

/-- The same reader, with the length of the next chunk at the front of its bytes. -/
def settled (reader : EnvelopeReader) : EnvelopeReader :=
  { reader with incoming := reader.incoming.settle 2 }

@[simp] theorem pending_settled (reader : EnvelopeReader) :
    reader.settled.pending = reader.pending := by
  simp [pending, settled]

@[simp] theorem message_settled (reader : EnvelopeReader) :
    reader.settled.message = reader.message := rfl

@[simp] theorem size_incoming_settled (reader : EnvelopeReader) :
    reader.settled.incoming.size = reader.incoming.size := ByteQueue.size_settle 2 _

/-- The chunk length that the first two bytes announce. -/
def announced (reader : EnvelopeReader) : Nat := Bytes.toNatBE (reader.incoming.take 2)

@[simp] theorem announced_settled (reader : EnvelopeReader) :
    reader.settled.announced = reader.announced := by
  simp [announced, settled]

/-- The bytes of the announced chunk. -/
def chunk (reader : EnvelopeReader) : Bytes := (reader.incoming.take (2 + reader.announced)).drop 2

/-- The reader after the announced chunk, whose bytes join the message. -/
def afterChunk (reader : EnvelopeReader) : EnvelopeReader :=
  { reader with
    incoming := reader.incoming.drop (2 + reader.announced)
    chunks := reader.chunk :: reader.chunks }

@[simp] theorem pending_afterChunk (reader : EnvelopeReader) :
    reader.afterChunk.pending = reader.pending.drop (2 + reader.announced) := by
  simp [pending, afterChunk]

@[simp] theorem message_afterChunk (reader : EnvelopeReader) :
    reader.afterChunk.message = reader.message ++ reader.chunk := by
  simp [message, afterChunk]

/-- The reader after an end mark. -/
def afterEnd (reader : EnvelopeReader) : EnvelopeReader :=
  { reader with incoming := reader.incoming.drop 2, chunks := [] }

@[simp] theorem pending_afterEnd (reader : EnvelopeReader) :
    reader.afterEnd.pending = reader.pending.drop 2 := by
  simp [pending, afterEnd]

@[simp] theorem message_afterEnd (reader : EnvelopeReader) : reader.afterEnd.message = [] := rfl

/-- The next message, or `none` while its bytes are not all there.  Whole chunks are consumed on
the way. -/
def next (reader : EnvelopeReader) : Except EnvelopeError (Option Bytes) × EnvelopeReader :=
  let ready := reader.settled
  if ready.incoming.size < 2 then (.ok none, ready)
  else if ready.capacity.size < ready.announced then
    (.error (.chunkTooLarge ready.announced ready.capacity.size), ready)
  else if ready.announced = 0 then (.ok (some ready.message), ready.afterEnd)
  else if ready.incoming.size < 2 + ready.announced then (.ok none, ready)
  else next ready.afterChunk
termination_by reader.incoming.size
decreasing_by
  have same : ready.incoming.size = reader.incoming.size := size_incoming_settled reader
  show (ready.incoming.drop (2 + ready.announced)).size < reader.incoming.size
  rw [ByteQueue.size_drop]
  omega

/-- The end of the stream: what is left of a message, or the fault of a chunk that is not all
there. -/
def finish (reader : EnvelopeReader) : Except EnvelopeError (Option Bytes) × EnvelopeReader :=
  match reader.next with
  | (.ok none, rest) =>
    if rest.incoming.size ≠ 0 then (.error (.truncatedChunk rest.incoming.size), rest)
    else if rest.message = [] then (.ok none, rest)
    else (.ok (some rest.message), { rest with chunks := [] })
  | answer => answer

/-- Taking out a message takes out bytes. -/
theorem size_incoming_next_lt {reader : EnvelopeReader} {message : Bytes}
    (found : reader.next.1 = .ok (some message)) :
    reader.next.2.incoming.size < reader.incoming.size := by
  fun_induction next reader with
  | case1 => cases found
  | case2 => cases found
  | case3 reader ready enough =>
    have same : ready.incoming.size = reader.incoming.size := size_incoming_settled reader
    simp only [afterEnd, ByteQueue.size_drop]
    omega
  | case4 => cases found
  | case5 reader ready enough _ _ _ ih =>
    have same : ready.incoming.size = reader.incoming.size := size_incoming_settled reader
    have step := ih found
    simp only [afterChunk, ByteQueue.size_drop] at step ⊢
    omega

/-- All whole messages in order, the fault that ended the reading, if one did, and the reader
after them. -/
def drain (reader : EnvelopeReader) : List Bytes × Option EnvelopeError × EnvelopeReader :=
  match _found : reader.next.1 with
  | .ok (some message) =>
    let (messages, fault, rest) := drain reader.next.2
    (message :: messages, fault, rest)
  | .ok none => ([], none, reader.next.2)
  | .error fault => ([], some fault, reader.next.2)
termination_by reader.incoming.size
decreasing_by exact size_incoming_next_lt _found

end EnvelopeReader

end Courier
