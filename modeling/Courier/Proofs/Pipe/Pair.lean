import Courier.Link.Memory
import Courier.Pipe.Basic
import Courier.Proofs.Wire.Reading
import Mathlib.Data.List.Basic
import Mathlib.Logic.Function.Basic
import Mathlib.Logic.Relation

/-!
# Two pipes and the streams between them

Two pipes face each other over a succession of streams.  A stream has two lanes,
one each way.  A lane keeps what was written to it in order and hands it over in
order, and it may lose all that is in flight from some packet on; what is written
to a lane that has lost something is lost as well, so that what arrives is always
a prefix of what was written.

Each pipe attaches every stream at most once, and the streams in the order of
their numbers, though it may pass over some of them.  A stream that one pipe has
attached and the other has not yet keeps what is written to it.

Every step is one operation of a pipe, with what the operation asks for done at
once, or the loss of packets.  Three things need no step of their own.  A write
that fails is a write whose packets are lost, followed by the loss of the stream.
A supervisor that closes a pipe because of a lost stream is the loss, followed by
the closing.  And the closing of a stream at one end is, for the other end, the
loss of the stream at a later time or never.

The bytes that arrive may be cut anywhere: what counts is that the reader of the
pipe makes of them the next packets in flight.  That it does so with bytes as they
were written is `Pair.Step.arrive_written`.
-/

namespace Courier

set_option autoImplicit false

theorem Side.other_ne (side : Side) : side.other ≠ side := by cases side <;> decide

@[simp] theorem Side.other_other (side : Side) : side.other.other = side := by cases side <;> rfl

theorem Side.eq_or_eq_other (side subject : Side) : subject = side ∨ subject = side.other := by
  cases side <;> cases subject <;> decide

/-! ## Lanes -/

/-- One direction of a stream, or a part of what is written to it. -/
structure Lane (α : Type) where
  /-- What was written and has neither arrived nor been lost, the oldest first. -/
  inFlight : List α
  /-- Whether nothing has been lost. -/
  whole : Bool

namespace Lane

variable {α : Type}

def new : Lane α := ⟨[], true⟩

def write (lane : Lane α) (items : List α) : Lane α :=
  if lane.whole then { lane with inFlight := lane.inFlight ++ items } else lane

/-- The lane after all but the oldest `count` items have been lost. -/
def cut (lane : Lane α) (count : Nat) : Lane α := ⟨lane.inFlight.take count, false⟩

end Lane

/-! ## Parties -/

/-- How a receiver ends with a message. -/
inductive Receipt where
  | accepted
  | refused (reason : String)
  | panicked
deriving DecidableEq

/-- What the pipe makes of a receipt: a receiver that breaks off has refused. -/
def Receipt.verdict : Receipt → Except String Unit
  | accepted => .ok ()
  | refused reason => .error reason
  | panicked => .error receiverPanicked

/-- A pipe, its receiver, and what has happened at them. -/
structure Party where
  pipe : Pipe
  /-- The streams that have been attached, the stream of generation one first. -/
  streams : List StreamId
  /-- The message that the receiver is at. -/
  busy : Option MessageId
  /-- The messages that were accepted for sending, in order.  Whoever waits for one has its place
  in this list for a ticket. -/
  accepted : List Bytes
  /-- What those who wait have been told, in order. -/
  reports : List (Ticket × Outcome)
  /-- The messages that were handed to the receiver, in order. -/
  handed : List Bytes
  /-- How the receiver ended with the messages handed to it, in the same order. -/
  receipts : List Receipt

namespace Party

def new (settings : PipeSettings) : Party := ⟨.new settings, [], none, [], [], [], []⟩

/-- The stream of a generation. -/
def stream? (party : Party) : (generation : Nat) → Option StreamId
  | 0 => none
  | number + 1 => party.streams[number]?

/-- The packets that the pipe reads when bytes of its newest stream arrive. -/
def reading (party : Party) (bytes : Bytes) : List Packet :=
  (party.pipe.reader.push bytes).drain.1

end Party

/-! ## Pairs -/

structure Pair where
  party : Side → Party
  /-- The lane of a stream on which the party of a side writes. -/
  lane : StreamId → Side → Lane Packet

namespace Pair

/-- Two pipes before anything has happened. -/
def new (settings : Side → PipeSettings) : Pair :=
  ⟨fun side => .new (settings side), fun _ _ => .new⟩

def setParty (pair : Pair) (side : Side) (party : Party) : Pair :=
  { pair with party := Function.update pair.party side party }

def setLane (pair : Pair) (stream : StreamId) (side : Side) (lane : Lane Packet) : Pair :=
  { pair with
    lane := Function.update pair.lane stream (Function.update (pair.lane stream) side lane) }

/-- Does one thing that the pipe of a side asks for, as far as it concerns the pair. -/
def perform (side : Side) (pair : Pair) : PipeEffect → Pair
  | .report ticket outcome =>
    let party := pair.party side
    pair.setParty side { party with reports := party.reports ++ [(ticket, outcome)] }
  | .write stream _ packets =>
    pair.setLane stream side ((pair.lane stream side).write packets)
  | .lose generation cause =>
    let party := pair.party side
    pair.setParty side { party with pipe := (party.pipe.lose generation cause).1 }
  | .wake | .shut _ | .notify | .raise _ => pair

/-- Does what the pipe of a side asks for, in order. -/
def performAll (pair : Pair) (side : Side) (effects : List PipeEffect) : Pair :=
  effects.foldl (perform side) pair

/-- Changes the pipe of a side and does what it asks for. -/
def change (pair : Pair) (side : Side) (changed : Pipe × List PipeEffect) : Pair :=
  (pair.setParty side { pair.party side with pipe := changed.1 }).performAll side changed.2

/-! ## The operations -/

/-- A message is sent, and counts if it is accepted. -/
def send (pair : Pair) (side : Side) (body : Bytes) : Pair :=
  let party := pair.party side
  match party.pipe.send body party.accepted.length with
  | (.error _, _, _) => pair
  | (.ok _, pipe, effects) =>
    (pair.setParty side { party with accepted := party.accepted ++ [body] }).change side
      (pipe, effects)

/-- A stream is attached. -/
def attach (pair : Pair) (side : Side) (stream : StreamId) : Pair :=
  let party := pair.party side
  match party.pipe.install stream with
  | .error _ => pair
  | .ok (pipe, effects, packets) =>
    (pair.setParty side { party with streams := party.streams ++ [stream] }).change side
      (pipe, effects ++ [.write stream pipe.generation packets])

/-- A stream is attached that cannot be bound. -/
def attachInVain (pair : Pair) (side : Side) (stream : StreamId) : Pair :=
  let party := pair.party side
  match party.pipe.install stream with
  | .error _ => pair
  | .ok (pipe, effects, _) =>
    (pair.setParty side { party with streams := party.streams ++ [stream] }).change side
      (pipe.uninstall pipe.generation, effects)

/-- Bytes of the stream of a generation arrive, after which `rest` is in flight on it. -/
def arrive (pair : Pair) (side : Side) (generation : Nat) (stream : StreamId) (bytes : Bytes)
    (rest : List Packet) : Pair :=
  let lane := pair.lane stream side.other
  (pair.setLane stream side.other { lane with inFlight := rest }).change side
    ((pair.party side).pipe.accept generation bytes)

/-- The pipe of a side is given its receiver, unless it has one. -/
def bind (pair : Pair) (side : Side) : Pair :=
  let party := pair.party side
  match party.pipe.bind with
  | .error _ => pair
  | .ok pipe => pair.setParty side { party with pipe }

/-- The next message that waits is handed to the receiver. -/
def hand (pair : Pair) (side : Side) : Pair :=
  let party := pair.party side
  match party.pipe.takeWaiting with
  | none => pair
  | some ((id, body), pipe) =>
    pair.setParty side { party with pipe, busy := some id, handed := party.handed ++ [body] }

/-- The receiver ends with the message it is at. -/
def conclude (pair : Pair) (side : Side) (receipt : Receipt) : Pair :=
  let party := pair.party side
  match party.busy with
  | none => pair
  | some id =>
    (pair.setParty side { party with busy := none, receipts := party.receipts ++ [receipt] }).change
      side (party.pipe.conclude id receipt.verdict)

/-- The stream of a generation is lost to the pipe of a side. -/
def lose (pair : Pair) (side : Side) (generation : Nat) (cause : Option StreamError) : Pair :=
  pair.change side ((pair.party side).pipe.lose generation cause)

def close (pair : Pair) (side : Side) : Pair := pair.change side (pair.party side).pipe.close

/-- Packets in flight on a lane are lost. -/
def cut (pair : Pair) (stream : StreamId) (side : Side) (count : Nat) : Pair :=
  pair.setLane stream side ((pair.lane stream side).cut count)

/-! ## Steps and runs -/

/-- One step of two pipes and the streams between them. -/
inductive Step (pair : Pair) : Pair → Prop where
  | send (side : Side) (body : Bytes) : Step pair (pair.send side body)
  | attach (side : Side) (stream : StreamId)
      (later : ∀ earlier ∈ (pair.party side).streams, earlier < stream) :
      Step pair (pair.attach side stream)
  | attachInVain (side : Side) (stream : StreamId)
      (later : ∀ earlier ∈ (pair.party side).streams, earlier < stream) :
      Step pair (pair.attachInVain side stream)
  | arrive (side : Side) (generation : Nat) (stream : StreamId) (bytes : Bytes)
      (packets rest : List Packet)
      (attached : (pair.party side).stream? generation = some stream)
      (inFlight : (pair.lane stream side.other).inFlight = packets ++ rest)
      (read : generation = (pair.party side).pipe.generation →
        (pair.party side).pipe.closed = false →
        (pair.party side).reading bytes = packets) :
      Step pair (pair.arrive side generation stream bytes rest)
  | bind (side : Side) : Step pair (pair.bind side)
  | hand (side : Side) (running : (pair.party side).pipe.reception = .running)
      (idle : (pair.party side).busy = none) : Step pair (pair.hand side)
  | conclude (side : Side) (receipt : Receipt) : Step pair (pair.conclude side receipt)
  | lose (side : Side) (generation : Nat) (cause : Option StreamError) :
      Step pair (pair.lose side generation cause)
  | close (side : Side) : Step pair (pair.close side)
  | cut (stream : StreamId) (side : Side) (count : Nat) : Step pair (pair.cut stream side count)

/-- Bytes as they were written can arrive, cut anywhere: all those of some packets, beside what the
reader has of the first one already, and perhaps the first ones of a further packet. -/
theorem Step.arrive_written (pair : Pair) (side : Side) {generation : Nat} {stream : StreamId}
    {bytes left : Bytes} {packets rest : List Packet}
    (attached : (pair.party side).stream? generation = some stream)
    (inFlight : (pair.lane stream side.other).inFlight = packets ++ rest)
    (written : (pair.party side).pipe.reader.pending ++ bytes =
      packets.flatMap Packet.encode ++ left)
    (fit : ∀ packet ∈ packets, packet.Fits (pair.party side).pipe.reader.maxBody)
    (unfinished : left = [] ∨ ∃ further : Packet, ∃ missing, missing ≠ [] ∧
      left ++ missing = further.encode ∧ further.Fits (pair.party side).pipe.reader.maxBody) :
    Step pair (pair.arrive side generation stream bytes rest) := by
  refine .arrive side generation stream bytes packets rest attached inFlight fun _ _ => ?_
  have pending : ((pair.party side).pipe.reader.push bytes).pending =
      packets.flatMap Packet.encode ++ left := by rw [PacketReader.pending_push, written]
  exact (PacketReader.drain_encode packets pending fit unfinished).1

/-- The pairs that any steps in any order lead to. -/
def Reachable (settings : Side → PipeSettings) : Pair → Prop :=
  Relation.ReflTransGen Step (new settings)

/-- The message ids suffice: no party has had more messages accepted than there are ids. -/
def WithinIds (pair : Pair) : Prop := ∀ side, (pair.party side).accepted.length ≤ 0x1000000

end Pair

end Courier
