import Courier.Bytes.Queue
import Courier.Wire.Packet

/-!
# Reading packets from a stream

A stream hands over its bytes in pieces that may end anywhere.  A packet
reader keeps the bytes that do not yet make a whole packet.

A length out of bounds leaves the bytes where they are, so the same fault is
found again whatever follows; a body that does not decode is consumed.  Every
packet takes at least eight bytes, so draining a reader ends.

In the interface of the runtime `next` is `next_packet`.
-/

namespace Courier

set_option autoImplicit false

/-- The unread bytes of a stream, and the longest body that is not taken for corruption. -/
structure PacketReader where
  maxBody : Nat
  buffer : ByteQueue
deriving DecidableEq

namespace PacketReader

/-- A reader at the start of a stream.  A limit below the shortest body is raised to it. -/
def new (maxBody : Nat) : PacketReader := ⟨max maxBody 4, .empty⟩

/-- The bytes that do not yet make a packet. -/
def pending (reader : PacketReader) : Bytes := reader.buffer.toBytes

/-- More bytes of the stream. -/
def push (reader : PacketReader) (bytes : Bytes) : PacketReader :=
  { reader with buffer := reader.buffer.push bytes }

@[simp] theorem pending_push (reader : PacketReader) (bytes : Bytes) :
    (reader.push bytes).pending = reader.pending ++ bytes := by
  simp [pending, push]

/-- The same reader, with the length of the next packet at the front of its buffer. -/
def settled (reader : PacketReader) : PacketReader :=
  { reader with buffer := reader.buffer.settle 4 }

@[simp] theorem pending_settled (reader : PacketReader) :
    reader.settled.pending = reader.pending := by
  simp [pending, settled]

@[simp] theorem size_buffer_settled (reader : PacketReader) :
    reader.settled.buffer.size = reader.buffer.size := ByteQueue.size_settle 4 _

/-- The body length that the first four bytes announce. -/
def announced (reader : PacketReader) : Nat := Bytes.toNatBE (reader.buffer.take 4)

@[simp] theorem announced_settled (reader : PacketReader) :
    reader.settled.announced = reader.announced := by
  simp [announced, settled]

/-- How many bytes the announced packet takes: its length, its body and the padding. -/
def frameLength (reader : PacketReader) : Nat := 4 + paddedLength reader.announced

/-- The body of the announced packet. -/
def body (reader : PacketReader) : Bytes :=
  ((reader.buffer.take reader.frameLength).drop 4).take reader.announced

/-- The reader after the announced packet. -/
def afterFrame (reader : PacketReader) : PacketReader :=
  { reader with buffer := reader.buffer.drop reader.frameLength }

@[simp] theorem pending_afterFrame (reader : PacketReader) :
    reader.afterFrame.pending = reader.pending.drop reader.frameLength := by
  simp [pending, afterFrame]

/-- The next packet, or `none` while its bytes are not all there. -/
def next (reader : PacketReader) : Except PacketError (Option Packet) × PacketReader :=
  let ready := reader.settled
  if ready.buffer.size < 4 then (.ok none, ready)
  else if ready.announced < 4 ∨ ready.maxBody < ready.announced then
    (.error (.badLength ready.announced ready.maxBody), ready)
  else if ready.buffer.size < ready.frameLength then (.ok none, ready)
  else ((Packet.decodeBody ready.body).map some, ready.afterFrame)

/-- A packet takes its bytes out of the reader. -/
theorem size_buffer_next_lt {reader : PacketReader} {packet : Packet}
    (found : reader.next.1 = .ok (some packet)) :
    reader.next.2.buffer.size < reader.buffer.size := by
  rw [← size_buffer_settled reader]
  simp only [next] at found ⊢
  split <;> rename_i enough <;> simp only [enough, if_true] at found
  · cases found
  · split <;> rename_i bounds <;> simp only [bounds, if_true, if_false] at found
    · cases found
    · split <;> rename_i whole <;> simp only [whole, if_true] at found
      · cases found
      · simp only [afterFrame, frameLength, ByteQueue.size_drop]
        omega

/-- All whole packets in order, the fault that ended the reading, if one did, and the reader after
them. -/
def drain (reader : PacketReader) : List Packet × Option PacketError × PacketReader :=
  match _found : reader.next.1 with
  | .ok (some packet) =>
    let (packets, fault, rest) := drain reader.next.2
    (packet :: packets, fault, rest)
  | .ok none => ([], none, reader.next.2)
  | .error fault => ([], some fault, reader.next.2)
termination_by reader.buffer.size
decreasing_by exact size_buffer_next_lt _found

end PacketReader

end Courier
