import Courier.Bytes.Basic
import Courier.Envelope.Capacity

/-!
# Writing enveloped messages

A message is cut into chunks no longer than the writer's capacity.  Each chunk
follows its length in two bytes, and a chunk of length zero ends the message.
-/

namespace Courier

set_option autoImplicit false

namespace Envelope

/-- A chunk with its length in front. -/
def chunk (bytes : Bytes) : Bytes := Bytes.ofNatBE 2 bytes.length ++ bytes

/-- The chunks of a message without the end mark. -/
def chunks (capacity : ChunkCapacity) (message : Bytes) : Bytes :=
  if message = [] then []
  else chunk (message.take capacity.size) ++ chunks capacity (message.drop capacity.size)
termination_by message.length
decreasing_by
  rename_i nonempty
  have := capacity.size_pos
  have := List.length_pos_iff.mpr nonempty
  simp only [List.length_drop]
  omega

/-- The chunk of length zero that ends a message. -/
def endMark : Bytes := chunk []

/-- A whole message as it stands on the stream. -/
def encode (capacity : ChunkCapacity) (message : Bytes) : Bytes :=
  chunks capacity message ++ endMark

end Envelope

/-- The bytes of a message that is still being written. -/
structure EnvelopeWriter where
  capacity : ChunkCapacity
  pending : Bytes
deriving DecidableEq

namespace EnvelopeWriter

def new (capacity : ChunkCapacity) : EnvelopeWriter := ⟨capacity, []⟩

/-- More bytes of the message. -/
def write (writer : EnvelopeWriter) (bytes : Bytes) : EnvelopeWriter :=
  { writer with pending := writer.pending ++ bytes }

/-- Ends the message: its bytes on the stream, and a writer for the next one. -/
def closeMessage (writer : EnvelopeWriter) : Bytes × EnvelopeWriter :=
  (Envelope.encode writer.capacity writer.pending, new writer.capacity)

end EnvelopeWriter

end Courier
