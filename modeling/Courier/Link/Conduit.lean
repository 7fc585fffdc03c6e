import Courier.Bytes.Basic

/-!
# Conduits

A conduit carries bytes in one direction inside a process.  It holds a limited
number of bytes: a writer gets rid of as many as there is room for, and has to
wait while there is none.  Either side may close it; then nothing more can be
written, and a reader gets what is left and after it the end.
-/

namespace Courier

set_option autoImplicit false

structure Conduit where
  capacity : Nat
  content : Bytes
  closed : Bool
  /-- Whether the reader waits for bytes or the end. -/
  readerWaits : Bool
  /-- Whether the writer waits for room or the end. -/
  writerWaits : Bool
deriving DecidableEq

namespace Conduit

def new (capacity : Nat) : Conduit := ⟨capacity, [], false, false, false⟩

/-- What is said of a write to a closed conduit. -/
def brokenPipe : String := "broken pipe"

def close (conduit : Conduit) : Conduit :=
  { conduit with closed := true, readerWaits := false, writerWaits := false }

/-- Writes as many bytes as there is room for, and gives their number; nothing if the writer has to
wait. -/
def write (conduit : Conduit) (bytes : Bytes) : Option (Except String Nat) × Conduit :=
  let room := conduit.capacity - conduit.content.length
  if conduit.closed then (some (.error brokenPipe), conduit)
  else if room = 0 then (none, { conduit with writerWaits := true })
  else
    let taken := bytes.take room
    (some (.ok taken.length),
      { conduit with content := conduit.content ++ taken, readerWaits := false })

/-- Reads at most `size` bytes; no bytes at the end, and nothing if the reader has to wait. -/
def read (conduit : Conduit) (size : Nat) : Option Bytes × Conduit :=
  match conduit.content with
  | [] =>
    if conduit.closed then (some [], conduit) else (none, { conduit with readerWaits := true })
  | content =>
    (some (content.take size),
      { conduit with content := content.drop size, writerWaits := false })

end Conduit

end Courier
