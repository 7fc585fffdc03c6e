import Courier.Pipe.Exchange
import Courier.Settings.Basic
import Courier.Wire.Reader

/-!
# Pipes

A pipe delivers messages reliably over a byte stream that may be lost and
replaced.  It adds to the exchange of acknowledgements the stream that is
attached at the moment, the reader of its packets, and the messages that wait
for the receiver.

Every stream is attached under a generation of its own.  Bytes of an earlier
generation are ignored, and the loss of a stream counts only while it is the one
attached.

An operation gives the changed pipe and, in order, what has to be done outside
it.  A write may fail; the pipe then has lost the stream, which comes before
anything that is still to be done.

To attach a stream takes three steps: `install` the stream and take down what
has to be said on it, bind the stream, and write what was taken down.  From the
second step on bytes of the stream may be handed to `accept`.

In the interface of the runtime a pipe is a `BlobPipe`; `accept` is `on_bytes` there,
`conclude` is `delivered`, `lose` is `stream_lost`, and `install` and `uninstall` are
the two halves of `attach_stream`.
-/

namespace Courier

set_option autoImplicit false

/-- A number by which the pipes' surroundings know a stream. -/
abbrev StreamId := Nat

/-- How grave something is that a part of a composition reports to its supervisor. -/
inductive Severity where
  /-- Worth a note. -/
  | warning
  /-- The composition has come to its end. -/
  | termination
  /-- The composition cannot go on. -/
  | fatal
deriving DecidableEq

inductive PipeEffect where
  /-- Tell who waits for a message what became of it. -/
  | report (ticket : Ticket) (outcome : Outcome)
  /-- Messages wait for the receiver. -/
  | wake
  /-- Write packets to a stream as one buffer; if that fails, the stream is lost. -/
  | write (stream : StreamId) (generation : Nat) (packets : List Packet)
  /-- Close a stream. -/
  | shut (stream : StreamId)
  /-- The stream of a generation is lost. -/
  | lose (generation : Nat) (cause : Option StreamError)
  /-- Tell the receiver that the pipe has closed. -/
  | notify
  /-- Report to the supervisor. -/
  | raise (severity : Severity)

/-- The stream in use and the generation it was attached under. -/
structure Attachment where
  stream : StreamId
  generation : Nat
deriving DecidableEq

/-- Where the receiver of a pipe stands. -/
inductive Reception where
  /-- There is no receiver yet; messages wait for one. -/
  | unbound
  /-- Messages are handed over one by one. -/
  | running
  /-- No message is handed over any more. -/
  | ended
deriving DecidableEq

structure Pipe where
  settings : PipeSettings
  exchange : Exchange
  reader : PacketReader
  /-- How many streams have been attached. -/
  generation : Nat
  attached : Option Attachment
  /-- The messages that wait for the receiver. -/
  waiting : List (MessageId × Bytes)
  reception : Reception
  closed : Bool

namespace Pipe

def new (settings : PipeSettings) : Pipe :=
  ⟨settings, .new, .new settings.maxPacketBytes, 0, none, [], .unbound, false⟩

/-- How many sent messages have no final answer. -/
def inFlight (pipe : Pipe) : Nat := pipe.exchange.outbound.length

/-- How many messages have arrived that the sender has not retired. -/
def inboundPending (pipe : Pipe) : Nat := pipe.exchange.inbound.length

/-! ## Writing -/

/-- Writes packets to the stream in use, if there is one. -/
def write (pipe : Pipe) (packets : List Packet) : List PipeEffect :=
  match pipe.attached with
  | some attachment => [.write attachment.stream attachment.generation packets]
  | none => []

/-- Writes packets to the stream in use, if it is still that of a generation. -/
def reply (pipe : Pipe) (generation : Nat) : List Packet → List PipeEffect
  | [] => []
  | packets =>
    if pipe.attached.any fun attachment => attachment.generation = generation then
      pipe.write packets
    else []

/-! ## Sending -/

/-- Sends a message.  It goes out at once if there is a stream, and otherwise with the next one. -/
def send (pipe : Pipe) (body : Bytes) (ticket : Ticket) :
    Except PipeError MessageId × Pipe × List PipeEffect :=
  if pipe.closed then (.error .closed, pipe, [])
  else
    match pipe.exchange.enqueue body ticket pipe.settings.inFlightLimit with
    | .error error => (.error error, pipe, [])
    | .ok (id, exchange) => (.ok id, { pipe with exchange }, pipe.write [.data id body])

/-! ## Receiving -/

/-- Gives the pipe its receiver. -/
def bind (pipe : Pipe) : Except PipeError Pipe :=
  if pipe.closed then .error .closed
  else
    match pipe.reception with
    | .unbound => .ok { pipe with reception := .running }
    | _ => .error .alreadyBound

/-- The next message for the receiver, which no longer waits then. -/
def takeWaiting (pipe : Pipe) : Option ((MessageId × Bytes) × Pipe) :=
  match pipe.waiting with
  | [] => none
  | message :: rest => some (message, { pipe with waiting := rest })

/-- The receiver has finished with a message.  If the pipe has closed meanwhile, it was the last. -/
def conclude (pipe : Pipe) (id : MessageId) (verdict : Except String Unit) :
    Pipe × List PipeEffect :=
  if pipe.closed then ({ pipe with reception := .ended }, [])
  else
    match pipe.exchange.conclude id verdict with
    | (some answer, exchange) => ({ pipe with exchange }, pipe.write [answer])
    | (none, exchange) => ({ pipe with exchange }, [])

/-- The loss of a stream on which a packet was not in order. -/
def corruption (generation : Nat) : Option PacketError → List PipeEffect
  | none => []
  | some fault => [.lose generation (some (.broken s!"corrupt stream: {fault.message}"))]

/-- Takes bytes of the stream of a generation. -/
def accept (pipe : Pipe) (generation : Nat) (bytes : Bytes) : Pipe × List PipeEffect :=
  if generation ≠ pipe.generation ∨ pipe.closed then (pipe, [])
  else
    let (packets, fault, reader) := (pipe.reader.push bytes).drain
    let (reaction, exchange) := pipe.exchange.handleAll packets
    ({ pipe with reader, exchange, waiting := pipe.waiting ++ reaction.deliveries },
      reaction.outcomes.map (fun entry => .report entry.1 entry.2)
        ++ (if reaction.deliveries.isEmpty || pipe.reception ≠ .running then [] else [.wake])
        ++ pipe.reply generation reaction.answers
        ++ corruption generation fault)

/-! ## Streams -/

/-- Puts a stream in use under a new generation.  Beside the changed pipe and the closing of the
stream used before, gives the packets to be written once the new stream is bound. -/
def install (pipe : Pipe) (stream : StreamId) :
    Except PipeError (Pipe × List PipeEffect × List Packet) :=
  if pipe.closed then .error .closed
  else
    let generation := pipe.generation + 1
    .ok ({ pipe with
        generation
        attached := some ⟨stream, generation⟩
        reader := .new pipe.settings.maxPacketBytes },
      (pipe.attached.map fun previous => PipeEffect.shut previous.stream).toList,
      pipe.exchange.resync)

/-- The stream of a generation could not be bound. -/
def uninstall (pipe : Pipe) (generation : Nat) : Pipe :=
  if pipe.generation = generation then { pipe with attached := none } else pipe

/-- What the loss of a stream means for the composition. -/
def lossSeverity (settings : PipeSettings) (cause : Option StreamError) : Severity :=
  if settings.reconnect then .warning
  else
    match cause with
    | none => .termination
    | some _ => .fatal

/-- The stream of a generation has ended or broken. -/
def lose (pipe : Pipe) (generation : Nat) (cause : Option StreamError) : Pipe × List PipeEffect :=
  match pipe.attached with
  | none => (pipe, [])
  | some attachment =>
    if attachment.generation = generation then
      ({ pipe with attached := none },
        .shut attachment.stream ::
          if pipe.closed then [] else [.raise (lossSeverity pipe.settings cause)])
    else (pipe, [])

/-! ## Closing -/

/-- Closes the pipe: who waits for a message is told, the stream is closed, then the receiver and
the supervisor are told. -/
def close (pipe : Pipe) : Pipe × List PipeEffect :=
  if pipe.closed then (pipe, [])
  else
    let (outcomes, exchange) := pipe.exchange.abandon
    ({ pipe with closed := true, exchange, attached := none },
      outcomes.map (fun entry => .report entry.1 entry.2)
        ++ (pipe.attached.map fun attachment => PipeEffect.shut attachment.stream).toList
        ++ (if pipe.reception = .unbound then [] else [.notify])
        ++ [.raise .termination])

end Pipe

end Courier
