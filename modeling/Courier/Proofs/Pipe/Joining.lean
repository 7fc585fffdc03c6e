import Courier.Proofs.Pipe.Pair

/-!
# Streams attached step by step

To attach a stream takes a pipe three steps: it puts the stream in use and takes
down what has to be said on it, it binds the stream, and it writes what it took
down.  `Pair.attach` does all three at once.  Here each is a step of its own, and
whatever else the two pipes do may fall between them; from the second step on
bytes of the stream may arrive.

Two histories are kept beside the pairs.  One has the ids of the messages that
were handed over, so that the same message can be told from another one with the
same content.  The other has the messages that were overtaken: their final answer
arrived on a stream whose attach was still under way, and what had been taken
down for this stream, and was not written yet, sends them once more.
-/

namespace Courier

set_option autoImplicit false

/-- An attach that has been begun and not ended. -/
structure Attaching where
  stream : StreamId
  generation : Nat
  /-- Whether bytes of the stream may arrive. -/
  bound : Bool
  /-- What was taken down and has to be written. -/
  packets : List Packet
deriving DecidableEq

/-- A message is sent once more by what was taken down. -/
def Attaching.resends (attaching : Attaching) (id : MessageId) : Bool :=
  attaching.packets.any fun
    | .data other _ => other = id
    | _ => false

/-- Two pipes that attach streams step by step. -/
structure Joint where
  pair : Pair
  /-- The attaches of each side that are under way, in the order of their generations. -/
  underway : Side → List Attaching
  /-- The ids of the messages that were handed to the receiver of each side, in order. -/
  handed : Side → List MessageId
  /-- The messages of each side that were overtaken. -/
  overtaken : Side → List MessageId

namespace Joint

/-- Two pipes before anything has happened. -/
def new (settings : Side → PipeSettings) : Joint :=
  ⟨.new settings, fun _ => [], fun _ => [], fun _ => []⟩

/-- The two pipes do something that has nothing to do with an attach. -/
def setPair (joint : Joint) (pair : Pair) : Joint := { joint with pair }

/-- The attaches of one side that are under way change. -/
def setUnderway (joint : Joint) (side : Side) (underway : List Attaching) : Joint :=
  { joint with underway := Function.update joint.underway side underway }

/-! ## The three steps of an attach -/

/-- A stream is put in use, and what has to be said on it is taken down. -/
def install (joint : Joint) (side : Side) (stream : StreamId) : Joint :=
  let party := joint.pair.party side
  match party.pipe.install stream with
  | .error _ => joint
  | .ok (pipe, effects, packets) =>
    (joint.setPair
        ((joint.pair.setParty side { party with streams := party.streams ++ [stream] }).change side
          (pipe, effects))).setUnderway side
      (joint.underway side ++ [⟨stream, pipe.generation, false, packets⟩])

/-- The stream of a generation is bound. -/
def bindStream (joint : Joint) (side : Side) (generation : Nat) : Joint :=
  joint.setUnderway side ((joint.underway side).map fun attaching =>
    if attaching.generation = generation then { attaching with bound := true } else attaching)

/-- The attaches of a side but for that of a generation. -/
def others (joint : Joint) (side : Side) (generation : Nat) : List Attaching :=
  (joint.underway side).filter fun attaching => attaching.generation ≠ generation

/-- The stream of a generation could not be bound, which ends its attach. -/
def failBind (joint : Joint) (side : Side) (generation : Nat) : Joint :=
  let party := joint.pair.party side
  (joint.setPair (joint.pair.setParty side
      { party with pipe := party.pipe.uninstall generation })).setUnderway side
    (joint.others side generation)

/-- What was taken down for a stream is written, which ends its attach. -/
def write (joint : Joint) (side : Side) (attaching : Attaching) : Joint :=
  (joint.setPair (Pair.perform side joint.pair
      (.write attaching.stream attaching.generation attaching.packets))).setUnderway side
    (joint.others side attaching.generation)

/-! ## The other operations -/

/-- The messages whose final answers are among what has just arrived on the stream of a generation,
and which what is still to be written there sends once more. -/
def overtakenBy (joint : Joint) (side : Side) (generation : Nat) (after : Pair) : List MessageId :=
  (joint.pair.party side).pipe.exchange.busyIds.filter fun id =>
    decide (id ∉ (after.party side).pipe.exchange.busyIds) &&
      (joint.underway side).any fun attaching =>
        decide (attaching.generation = generation) && attaching.resends id

/-- Further messages of a side count as overtaken. -/
def overtake (joint : Joint) (side : Side) (ids : List MessageId) : Joint :=
  { joint with
    overtaken := Function.update joint.overtaken side (joint.overtaken side ++ ids) }

/-- Bytes of the stream of a generation arrive. -/
def arrive (joint : Joint) (side : Side) (generation : Nat) (stream : StreamId) (bytes : Bytes)
    (rest : List Packet) : Joint :=
  let after := joint.pair.arrive side generation stream bytes rest
  (joint.setPair after).overtake side (joint.overtakenBy side generation after)

/-- The next message that waits is handed to the receiver. -/
def hand (joint : Joint) (side : Side) : Joint :=
  { joint with
    pair := joint.pair.hand side
    handed := Function.update joint.handed side
      (joint.handed side ++ (((joint.pair.party side).pipe.waiting.head?).map Prod.fst).toList) }

/-! ## Steps and runs -/

/-- One step of two pipes: one part of an attach, another operation of a pipe, or the loss of
packets. -/
inductive Step (joint : Joint) : Joint → Prop where
  | install (side : Side) (stream : StreamId)
      (later : ∀ earlier ∈ (joint.pair.party side).streams, earlier < stream) :
      Step joint (joint.install side stream)
  | bindStream (side : Side) (generation : Nat) : Step joint (joint.bindStream side generation)
  | failBind (side : Side) (generation : Nat)
      (unbound : ∃ attaching ∈ joint.underway side,
        attaching.generation = generation ∧ attaching.bound = false) :
      Step joint (joint.failBind side generation)
  | write (side : Side) (attaching : Attaching) (underway : attaching ∈ joint.underway side)
      (bound : attaching.bound = true) : Step joint (joint.write side attaching)
  | send (side : Side) (body : Bytes) : Step joint (joint.setPair (joint.pair.send side body))
  | arrive (side : Side) (generation : Nat) (stream : StreamId) (bytes : Bytes)
      (packets rest : List Packet)
      (attached : (joint.pair.party side).stream? generation = some stream)
      (bound : ∀ attaching ∈ joint.underway side,
        attaching.generation = generation → attaching.bound = true)
      (inFlight : (joint.pair.lane stream side.other).inFlight = packets ++ rest)
      (read : generation = (joint.pair.party side).pipe.generation →
        (joint.pair.party side).pipe.closed = false →
        (joint.pair.party side).reading bytes = packets) :
      Step joint (joint.arrive side generation stream bytes rest)
  | bind (side : Side) : Step joint (joint.setPair (joint.pair.bind side))
  | hand (side : Side) (running : (joint.pair.party side).pipe.reception = .running)
      (idle : (joint.pair.party side).busy = none) : Step joint (joint.hand side)
  | conclude (side : Side) (receipt : Receipt) :
      Step joint (joint.setPair (joint.pair.conclude side receipt))
  | lose (side : Side) (generation : Nat) (cause : Option StreamError) :
      Step joint (joint.setPair (joint.pair.lose side generation cause))
  | close (side : Side) : Step joint (joint.setPair (joint.pair.close side))
  | cut (stream : StreamId) (side : Side) (count : Nat) :
      Step joint (joint.setPair (joint.pair.cut stream side count))

/-- The pipes that any steps in any order lead to. -/
def Reachable (settings : Side → PipeSettings) : Joint → Prop :=
  Relation.ReflTransGen Step (new settings)

end Joint

end Courier
