import Courier.Envelope.Reader
import Courier.Envelope.Writer
import Courier.Link.Error

/-!
# The loops of a stream

A byte stream is served by two loops.  The read loop hands what it reads to the
sink of the stream, and says once that the stream has ended or broken.  The
write loop takes the queued buffers one by one and writes each whole before the
next one; it tells the sink when that fails.

A stream is raw, so that its bytes are handed over as they are read, or carries
envelopes, so that every buffer arrives as it was written.

The loops are described by their steps: what a loop does with the answer of the
operating system to its last call.

In the interface of the runtime a stream with its two loops is a `StreamDuplex`.
-/

namespace Courier

set_option autoImplicit false

/-- How buffers are laid out on a stream: as they are, or in envelopes of some chunk capacity. -/
abbrev Framing := Option ChunkCapacity

/-- What the sink of a stream is told. -/
inductive StreamEvent where
  | bytes (content : Bytes)
  /-- The stream has ended, or broken for a cause.  -/
  | ended (cause : Option StreamError)
deriving DecidableEq

/-! ## Reading -/

inductive ReadLoop where
  | raw
  | enveloped (reader : EnvelopeReader)
  /-- Nothing is read any more. -/
  | stopped
deriving DecidableEq

namespace ReadLoop

def new : Framing → ReadLoop
  | none => raw
  | some capacity => enveloped (.new capacity)

/-- How many bytes are read at a time. -/
def readSize : Nat := 8192

/-- The end of a stream that carries envelopes.  A message without an end mark counts. -/
def endOfEnvelopes (reader : EnvelopeReader) : List StreamEvent :=
  match reader.finish.1 with
  | .ok (some message) => [.bytes message, .ended none]
  | .ok none => [.ended none]
  | .error fault => [.ended (some (.broken fault.message))]

/-- Does with the answer to a read what is to be done: some bytes, none at the end, or why the read
failed. -/
def step (loop : ReadLoop) (answer : Except String Bytes) : List StreamEvent × ReadLoop :=
  match loop, answer with
  | stopped, _ => ([], stopped)
  | _, .error reason => ([.ended (some (.broken reason))], stopped)
  | raw, .ok [] => ([.ended none], stopped)
  | raw, .ok content => ([.bytes content], raw)
  | enveloped reader, .ok [] => (endOfEnvelopes reader, stopped)
  | enveloped reader, .ok content =>
    match (reader.push content).drain with
    | (messages, none, rest) => (messages.map .bytes, enveloped rest)
    | (messages, some fault, _) =>
      (messages.map .bytes ++ [.ended (some (.broken fault.message))], stopped)

end ReadLoop

/-! ## Writing -/

/-- Where the write loop stands. -/
inductive WriteStage where
  /-- It waits for a buffer. -/
  | resting
  /-- These bytes of a buffer are still to be written. -/
  | writing (rest : Bytes)
  /-- A buffer is written and is to be flushed. -/
  | flushing
  /-- Nothing is written any more. -/
  | stopped
deriving DecidableEq

/-- What the write loop calls next. -/
inductive WriteCall where
  | write (bytes : Bytes)
  | flush
  | shutdown
deriving DecidableEq

structure WriteLoop where
  framing : Framing
  queue : List Bytes
  /-- Whether further buffers may be queued. -/
  taking : Bool
  stage : WriteStage
deriving DecidableEq

namespace WriteLoop

def new (framing : Framing) : WriteLoop := ⟨framing, [], true, .resting⟩

/-- The bytes of a buffer on the stream. -/
def layOut : Framing → Bytes → Bytes
  | none, buffer => buffer
  | some capacity, buffer => Envelope.encode capacity buffer

/-- Queues a buffer.  What is queued after the loop has stopped would never be written. -/
def push (loop : WriteLoop) (buffer : Bytes) : Except StreamError WriteLoop :=
  if !loop.taking then .error .closed
  else if loop.stage = .stopped then .error (.broken "writer stopped")
  else .ok { loop with queue := loop.queue ++ [buffer] }

/-- No further buffer will be queued. -/
def finish (loop : WriteLoop) : WriteLoop := { loop with taking := false }

/-- The stage for the bytes that are still to be written. -/
def stageOf : Bytes → WriteStage
  | [] => .flushing
  | rest => .writing rest

/-- The loop with the next buffer in hand, if it rests and there is one. -/
def takeUp (loop : WriteLoop) : WriteLoop :=
  match loop.stage, loop.queue with
  | .resting, buffer :: rest =>
    { loop with queue := rest, stage := stageOf (layOut loop.framing buffer) }
  | _, _ => loop

/-- What the loop calls next; nothing while it waits for a buffer or once it has stopped. -/
def call? (loop : WriteLoop) : Option WriteCall :=
  match loop.takeUp.stage with
  | .resting => if loop.taking then none else some .shutdown
  | .writing rest => some (.write rest)
  | .flushing => some .flush
  | .stopped => none

/-- The loop stops because a call failed. -/
def failed (loop : WriteLoop) (reason : String) : List StreamEvent × WriteLoop :=
  ([.ended (some (.broken reason))], { loop with stage := .stopped, queue := [] })

/-- What is said of a stream that takes no byte of a write. -/
def wroteNothing : String := "write zero"

/-- Does with the answer to the last call what is to be done: how many bytes were written, or why
the call failed. -/
def step (loop : WriteLoop) (answer : Except String Nat) : List StreamEvent × WriteLoop :=
  let busy := loop.takeUp
  match busy.stage, answer with
  | .stopped, _ => ([], busy)
  | .resting, _ => ([], if loop.taking then busy else { busy with stage := .stopped })
  | _, .error reason => busy.failed reason
  | .flushing, .ok _ => ([], { busy with stage := .resting })
  | .writing rest, .ok written =>
    if written = 0 then busy.failed wroteNothing
    else ([], { busy with stage := stageOf (rest.drop written) })

end WriteLoop

end Courier
