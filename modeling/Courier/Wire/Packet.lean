import Courier.Wire.MessageId
import Courier.Bytes.Hex

/-!
# Packets

What two pipes say to each other.  A packet carries a message, says how far
the receiver has come with one, answers that it is retired, or, once after a
stream is attached, says how far the receiver has come with several.

On the wire a packet is the length of its body in four bytes, the body, and
zeros up to a multiple of four bytes.  The body is a kind byte, the three
bytes of the message id, and a payload that depends on the kind.

`encode` writes a packet and `decodeBody` reads a body back; the reader for a
stream of packets is in `Courier.Wire.Reader`.

In the interface of the runtime an `Ack` is an `AckQuad`, a header a `PacketPrefix`,
and a `PacketError` a `WireError`.
-/

namespace Courier

set_option autoImplicit false

/-! ## The packets -/

/-- What a packet is about; the byte of each kind is its place in this list. -/
inductive PacketKind where
  /-- A message. -/
  | data
  /-- The receiver has stored a message; the sender may free its body. -/
  | ackReceived
  /-- The receiver's application has processed a message. -/
  | ackDelivered
  /-- The receiver's application has refused a message, with a reason. -/
  | nack
  /-- The sender has retired a message and will never send it again. -/
  | ackOfNack
  /-- What the receiver knows of several messages, said after a stream is attached. -/
  | sync
deriving DecidableEq, Repr

namespace PacketKind

def code : PacketKind → UInt8
  | data => 0
  | ackReceived => 1
  | ackDelivered => 2
  | nack => 3
  | ackOfNack => 4
  | sync => 5

def ofCode? (code : UInt8) : Option PacketKind :=
  match code.toNat with
  | 0 => some data
  | 1 => some ackReceived
  | 2 => some ackDelivered
  | 3 => some nack
  | 4 => some ackOfNack
  | 5 => some sync
  | _ => none

@[simp] theorem ofCode?_code (kind : PacketKind) : ofCode? kind.code = some kind := by
  cases kind <;> rfl

end PacketKind

/-- How far a receiver has come with a message that it has not refused. -/
inductive AckState where
  | received
  | delivered
deriving DecidableEq

/-- One entry of a sync: a message and how far the receiver has come with it. -/
structure Ack where
  state : AckState
  id : MessageId
deriving DecidableEq

/-- The kind of packet that says the same of one message. -/
def AckState.kind : AckState → PacketKind
  | received => .ackReceived
  | delivered => .ackDelivered

inductive Packet where
  | data (id : MessageId) (payload : Bytes)
  | ackReceived (id : MessageId)
  | ackDelivered (id : MessageId)
  | nack (id : MessageId) (reason : String)
  | ackOfNack (id : MessageId)
  | sync (acks : List Ack)
deriving DecidableEq

/-! ## What can be wrong with received bytes -/

inductive PacketError where
  /-- No kind of packet has this byte. -/
  | unknownKind (code : UInt8)
  /-- The announced length of a body is below four or above the limit. -/
  | badLength (length limit : Nat)
  /-- A body is too short for a kind and an id. -/
  | bodyTooShort (length : Nat)
  /-- The payload of a sync does not divide into entries of four bytes. -/
  | malformedSync (length : Nat)
  /-- A sync entry has the byte of a kind that is no acknowledgement. -/
  | invalidSyncEntry (code : UInt8)
  /-- The reason of a refusal is not UTF-8. -/
  | invalidReason
deriving DecidableEq, Repr

/-- A byte as two hexadecimal digits after `0x`. -/
def hexByte (byte : UInt8) : String := "0x" ++ Bytes.toHex [byte]

def PacketError.message : PacketError → String
  | unknownKind code => s!"unknown packet kind: {hexByte code}"
  | badLength length limit => s!"packet body length {length} outside 4..={limit}"
  | bodyTooShort length => s!"packet body too short: {length} bytes"
  | malformedSync length => s!"SYNC payload of {length} bytes is not a whole number of quads"
  | invalidSyncEntry code => s!"SYNC entry carries non-ack kind {hexByte code}"
  | invalidReason => "NACK reason is not valid UTF-8"

/-! ## Writing -/

/-- A length rounded up to a multiple of four. -/
def paddedLength (length : Nat) : Nat := (length + 3) / 4 * 4

theorem le_paddedLength (length : Nat) : length ≤ paddedLength length := by
  unfold paddedLength
  omega

namespace Packet

def kind : Packet → PacketKind
  | data _ _ => .data
  | ackReceived _ => .ackReceived
  | ackDelivered _ => .ackDelivered
  | nack _ _ => .nack
  | ackOfNack _ => .ackOfNack
  | sync _ => .sync

/-- The id in the header; a sync, which names its messages in the payload, has zero there. -/
def id : Packet → MessageId
  | data id _ => id
  | ackReceived id => id
  | ackDelivered id => id
  | nack id _ => id
  | ackOfNack id => id
  | sync _ => .zero

/-- The four bytes of a sync entry. -/
def ackBytes (ack : Ack) : Bytes := ack.state.kind.code :: ack.id.toBytes

def payloadBytes : Packet → Bytes
  | data _ payload => payload
  | nack _ reason => Bytes.ofText reason
  | sync acks => acks.flatMap ackBytes
  | _ => []

/-- The kind byte, the id and the payload. -/
def body (packet : Packet) : Bytes :=
  packet.kind.code :: packet.id.toBytes ++ packet.payloadBytes

/-- The length of a body, its kind and its id: the first eight bytes of a packet. -/
def header (length : Nat) (kind : PacketKind) (id : MessageId) : Bytes :=
  Bytes.ofNatBE 4 length ++ kind.code :: id.toBytes

/-- A body with its length in front and zeros behind it up to a multiple of four bytes. -/
def frame (body : Bytes) : Bytes :=
  Bytes.ofNatBE 4 body.length ++ body ++ List.replicate (paddedLength body.length - body.length) 0

/-- The bytes of a packet on a stream. -/
def encode (packet : Packet) : Bytes := frame packet.body

/-! ## Reading -/

/-- The entries of a sync.  A byte that no kind has is told from the byte of another kind. -/
def decodeAcks : Bytes → Except PacketError (List Ack)
  | code :: high :: middle :: low :: rest => do
    let state ← match PacketKind.ofCode? code with
      | none => throw (.unknownKind code)
      | some .ackReceived => pure AckState.received
      | some .ackDelivered => pure AckState.delivered
      | some _ => throw (.invalidSyncEntry code)
    let acks ← decodeAcks rest
    return ⟨state, MessageId.ofBytes [high, middle, low]⟩ :: acks
  | _ => return []

/-- The packet of a kind with an id and a payload.  The kinds without a payload ignore one. -/
def ofPayload (kind : PacketKind) (id : MessageId) (payload : Bytes) : Except PacketError Packet :=
  match kind with
  | .data => return data id payload
  | .ackReceived => return ackReceived id
  | .ackDelivered => return ackDelivered id
  | .ackOfNack => return ackOfNack id
  | .nack =>
    match Bytes.text? payload with
    | some reason => return nack id reason
    | none => throw .invalidReason
  | .sync =>
    if payload.length % 4 = 0 then sync <$> decodeAcks payload
    else throw (.malformedSync payload.length)

/-- What the first eight bytes of a packet spell: the length of the body, the code of its kind,
which need not be one, and its id. -/
def readHeader? (bytes : Bytes) : Option (Nat × UInt8 × MessageId) :=
  match bytes.drop 4 with
  | code :: high :: middle :: low :: _ =>
    some (Bytes.toNatBE (bytes.take 4), code, MessageId.ofBytes [high, middle, low])
  | _ => none

/-- A header is read back; of the length there is no more than fits into four bytes. -/
theorem readHeader?_header (length : Nat) (kind : PacketKind) (id : MessageId) (rest : Bytes) :
    readHeader? (header length kind id ++ rest) = some (length % 0x100000000, kind.code, id) := by
  have four : (Bytes.ofNatBE 4 length).length = 4 := by simp
  match spelled : id.toBytes, id.length_toBytes with
  | [high, middle, low], _ =>
    have whole : header length kind id ++ rest =
        Bytes.ofNatBE 4 length ++ kind.code :: high :: middle :: low :: rest := by
      simp [header, spelled]
    have named : MessageId.ofBytes [high, middle, low] = id := by
      rw [← spelled, MessageId.ofBytes_toBytes]
    have announced : Bytes.toNatBE (Bytes.ofNatBE 4 length) = length % 0x100000000 :=
      Bytes.toNatBE_ofNatBE 4 length
    rw [readHeader?, whole, List.drop_left' four, List.take_left' four, announced]
    exact congrArg (fun read => some (length % 0x100000000, kind.code, read)) named

/-- The packet that a body spells. -/
def decodeBody : Bytes → Except PacketError Packet
  | code :: high :: middle :: low :: payload =>
    match PacketKind.ofCode? code with
    | none => throw (.unknownKind code)
    | some kind => ofPayload kind (MessageId.ofBytes [high, middle, low]) payload
  | short => throw (.bodyTooShort short.length)

end Packet

end Courier
