import Courier.Numbering
import Courier.Pipe.Error
import Courier.Wire.Packet

/-!
# The exchange of acknowledgements

Each end of a pipe keeps two tables.  Its outbound table has the messages that
the peer has not finally answered; the body of one is kept until the peer says
that it has stored it.  Its inbound table has every message that the peer has
not yet said to be retired, with how far the receiver has come; so a message
that arrives again is recognised and answered, and never handed over twice.

Nothing here reads or writes a stream.  A packet is handled by changing the
tables, and what has to be done outside them is given back as a `Reaction`:
packets to answer with, messages to hand over, and outcomes to report.

`resync` is what has to be said on a new stream: how far the receiver is with
what has arrived, which messages it refused, and again every message that the
peer may not have stored, in the order in which they were sent.

In the interface of the runtime an exchange is a `PipeState`, and a `Reaction` is its
`Effects`; `conclude` is `delivered` there, and `abandon` is `drain_outbound`.
-/

namespace Courier

set_option autoImplicit false

/-- Who waits for the outcome of a message. -/
abbrev Ticket := Nat

/-- A sent message without a final answer. -/
structure Outbound where
  id : MessageId
  /-- How many messages were sent before this one. -/
  sequence : Nat
  /-- Dropped once the peer has stored the message. -/
  body : Option Bytes
  ticket : Ticket
deriving DecidableEq

/-- How far the receiver has come with a message that arrived. -/
inductive Disposition where
  /-- Handed over, or waiting to be. -/
  | received
  | delivered
  | refused (reason : String)
deriving DecidableEq

namespace Disposition

/-- The answer to a message that arrives again. -/
def answer (id : MessageId) : Disposition → Packet
  | received => .ackReceived id
  | delivered => .ackDelivered id
  | refused reason => .nack id reason

/-- What a receiver made of a message. -/
def ofVerdict : Except String Unit → Disposition
  | .ok _ => delivered
  | .error reason => refused reason

/-- The sync entry for a message that has not been refused. -/
def ack? (id : MessageId) : Disposition → Option Ack
  | received => some ⟨.received, id⟩
  | delivered => some ⟨.delivered, id⟩
  | refused _ => none

/-- The refusal of a message that has been refused. -/
def nack? (id : MessageId) : Disposition → Option Packet
  | refused reason => some (.nack id reason)
  | _ => none

end Disposition

/-! ## Reactions -/

/-- What handling a packet asks for, each in order. -/
structure Reaction where
  answers : List Packet
  deliveries : List (MessageId × Bytes)
  outcomes : List (Ticket × Outcome)

namespace Reaction

/-- Nothing to do. -/
def none : Reaction := ⟨[], [], []⟩

def answer (packet : Packet) : Reaction := ⟨[packet], [], []⟩

/-- One reaction after another. -/
def append (first second : Reaction) : Reaction :=
  ⟨first.answers ++ second.answers, first.deliveries ++ second.deliveries,
    first.outcomes ++ second.outcomes⟩

instance : Append Reaction := ⟨append⟩

@[simp] theorem answers_append (first second : Reaction) :
    (first ++ second).answers = first.answers ++ second.answers := rfl

@[simp] theorem deliveries_append (first second : Reaction) :
    (first ++ second).deliveries = first.deliveries ++ second.deliveries := rfl

@[simp] theorem outcomes_append (first second : Reaction) :
    (first ++ second).outcomes = first.outcomes ++ second.outcomes := rfl

end Reaction

/-! ## The tables -/

/-- The state of one end; both tables are in the order in which their messages came in. -/
structure Exchange where
  nextId : MessageId
  /-- How many messages have been sent. -/
  sent : Nat
  outbound : List Outbound
  inbound : List (MessageId × Disposition)
deriving DecidableEq

namespace Exchange

def new : Exchange := ⟨.zero, 0, [], []⟩

/-- The ids of the messages without a final answer. -/
def busyIds (exchange : Exchange) : List MessageId := exchange.outbound.map (·.id)

def disposition? (exchange : Exchange) (id : MessageId) : Option Disposition :=
  (exchange.inbound.find? fun entry => entry.1 = id).map (·.2)

/-! ## Sending -/

/-- Enters a message under the next free id.  At most `limit` messages may be without an answer. -/
def enqueue (exchange : Exchange) (body : Bytes) (ticket : Ticket) (limit : Nat) :
    Except PipeError (MessageId × Exchange) :=
  if limit ≤ exchange.outbound.length then .error (.tooManyInFlight limit)
  else
    let id := Numbering.firstFree MessageId.next exchange.busyIds exchange.nextId
    .ok (id, { exchange with
      nextId := id.next
      sent := exchange.sent + 1
      outbound := exchange.outbound ++ [⟨id, exchange.sent, some body, ticket⟩] })

/-- Gives up all messages in both tables; those who wait are told that the pipe is closed. -/
def abandon (exchange : Exchange) : List (Ticket × Outcome) × Exchange :=
  (exchange.outbound.map fun entry => (entry.ticket, .error .closed),
    { exchange with outbound := [], inbound := [] })

/-! ## Answers of the receiver -/

/-- Puts down how far the receiver has come with a message. -/
def setDisposition (exchange : Exchange) (id : MessageId) (disposition : Disposition) : Exchange :=
  { exchange with inbound := exchange.inbound.map fun entry =>
      if entry.1 = id then (id, disposition) else entry }

/-- The receiver has finished with a message.  Only the first verdict on a message counts. -/
def conclude (exchange : Exchange) (id : MessageId) (verdict : Except String Unit) :
    Option Packet × Exchange :=
  match exchange.disposition? id with
  | some .received =>
    let disposition := Disposition.ofVerdict verdict
    (some (disposition.answer id), exchange.setDisposition id disposition)
  | _ => (none, exchange)

/-! ## Handling packets -/

/-- A message arrives. -/
def onData (exchange : Exchange) (id : MessageId) (payload : Bytes) : Reaction × Exchange :=
  match exchange.disposition? id with
  | none =>
    (⟨[.ackReceived id], [(id, payload)], []⟩,
      { exchange with inbound := exchange.inbound ++ [(id, .received)] })
  | some disposition => (.answer (disposition.answer id), exchange)

/-- The peer has stored a message, whose body is not needed any more. -/
def onReceipt (exchange : Exchange) (id : MessageId) : Exchange :=
  { exchange with outbound := exchange.outbound.map fun entry =>
      if entry.id = id then { entry with body := none } else entry }

/-- The final answer to a message.  An unknown id is answered too, so that the peer can forget a
message that this side no longer knows. -/
def retire (exchange : Exchange) (id : MessageId) (outcome : Outcome) : Reaction × Exchange :=
  (⟨[.ackOfNack id], [],
      (exchange.outbound.filter fun entry => entry.id = id).map fun entry =>
        (entry.ticket, outcome)⟩,
    { exchange with outbound := exchange.outbound.filter fun entry => entry.id ≠ id })

/-- The peer has retired a message.  It is forgotten unless the receiver is still at it. -/
def forget (exchange : Exchange) (id : MessageId) : Exchange :=
  { exchange with inbound := exchange.inbound.filter fun entry =>
      entry.1 ≠ id ∨ entry.2 = .received }

/-- One entry of a sync. -/
def onAck (exchange : Exchange) (ack : Ack) : Reaction × Exchange :=
  match ack.state with
  | .received => (.none, exchange.onReceipt ack.id)
  | .delivered => exchange.retire ack.id (.ok ())

/-- The entries of a sync in order. -/
def onAcks (exchange : Exchange) : List Ack → Reaction × Exchange
  | [] => (.none, exchange)
  | ack :: acks =>
    let (first, after) := exchange.onAck ack
    let (rest, last) := after.onAcks acks
    (first ++ rest, last)

def handle (exchange : Exchange) : Packet → Reaction × Exchange
  | .data id payload => exchange.onData id payload
  | .ackReceived id => (.none, exchange.onReceipt id)
  | .ackDelivered id => exchange.retire id (.ok ())
  | .nack id reason => exchange.retire id (.error (.rejected id reason))
  | .ackOfNack id => (.none, exchange.forget id)
  | .sync acks => exchange.onAcks acks

/-- Several packets in order. -/
def handleAll (exchange : Exchange) : List Packet → Reaction × Exchange
  | [] => (.none, exchange)
  | packet :: packets =>
    let (first, after) := exchange.handle packet
    let (rest, last) := after.handleAll packets
    (first ++ rest, last)

/-! ## Resuming on a new stream -/

/-- The inbound messages in ascending order of their ids. -/
def ascending (exchange : Exchange) : List (MessageId × Disposition) :=
  exchange.inbound.mergeSort fun first second => decide (first.1.toNat ≤ second.1.toNat)

/-- The sync: every inbound message that has not been refused. -/
def acks (exchange : Exchange) : List Ack :=
  exchange.ascending.filterMap fun entry => entry.2.ack? entry.1

/-- Every inbound message that has been refused. -/
def nacks (exchange : Exchange) : List Packet :=
  exchange.ascending.filterMap fun entry => entry.2.nack? entry.1

/-- Every outbound message whose body the peer may not have. -/
def unconfirmed (exchange : Exchange) : List Packet :=
  exchange.outbound.filterMap fun entry => entry.body.map fun body => .data entry.id body

/-- What has to be said on a new stream. -/
def resync (exchange : Exchange) : List Packet :=
  .sync exchange.acks :: exchange.nacks ++ exchange.unconfirmed

end Exchange

end Courier
