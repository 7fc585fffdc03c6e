/-!
# Chunk capacities

The longest chunk that one end of an envelope stream writes, or reads without
taking it for corruption.  The length of a chunk is written in two bytes and a
chunk of length zero ends a message, so a capacity lies between 1 and 65535.
-/

namespace Courier

set_option autoImplicit false

/-- A chunk length that two bytes can announce and that makes progress. -/
structure ChunkCapacity where
  size : Nat
  size_pos : 0 < size
  size_le : size ≤ 65535
deriving DecidableEq

namespace ChunkCapacity

/-- The nearest capacity to a wished size. -/
def clamp (size : Nat) : ChunkCapacity := ⟨min (max size 1) 65535, by omega, by omega⟩

/-- The capacity where none is asked for. -/
def standard : ChunkCapacity := clamp 8192

theorem size_clamp_of_bounds {size : Nat} (pos : 0 < size) (bound : size ≤ 65535) :
    (clamp size).size = size := by
  simp only [clamp]
  omega

end ChunkCapacity

/-- What can be wrong with an envelope stream. -/
inductive EnvelopeError where
  /-- A chunk announces more bytes than the reader's capacity. -/
  | chunkTooLarge (length capacity : Nat)
  /-- The stream ended after this many bytes of an unfinished chunk. -/
  | truncatedChunk (length : Nat)
deriving DecidableEq, Repr

def EnvelopeError.message : EnvelopeError → String
  | chunkTooLarge length capacity =>
    s!"envelope chunk of {length} bytes exceeds working buffer of {capacity}"
  | truncatedChunk length => s!"stream ended inside an envelope chunk ({length} bytes pending)"

end Courier
