import Courier.Proofs.Wire.Frames

/-!
# Reading what was written

A packet reads back from its body, and from its frame at the front of a stream.
So a reader makes of the bytes of several packets, and of the first bytes of one
more, just those packets, and keeps the bytes that are left.
-/

namespace Courier

set_option autoImplicit false

/-! ## Bodies -/

namespace Packet

/-- The entry at the front of a sync reads back. -/
theorem decodeAcks_cons (ack : Ack) (rest : Bytes) :
    decodeAcks (ackBytes ack ++ rest) = (ack :: ·) <$> decodeAcks rest := by
  obtain ⟨state, id⟩ := ack
  obtain ⟨high, middle, low, bytes⟩ := List.length_eq_three.mp id.length_toBytes
  have spelled : MessageId.ofBytes [high, middle, low] = id := by
    rw [← bytes, MessageId.ofBytes_toBytes]
  simp only [ackBytes, bytes, List.cons_append, List.nil_append, decodeAcks,
    PacketKind.ofCode?_code, spelled]
  cases state <;> cases decodeAcks rest <;> rfl

theorem decodeAcks_ackBytes (acks : List Ack) :
    decodeAcks (acks.flatMap ackBytes) = .ok acks := by
  induction acks with
  | nil => rfl
  | cons ack acks ih =>
    rw [List.flatMap_cons, decodeAcks_cons, ih]
    rfl

theorem length_flatMap_ackBytes (acks : List Ack) :
    (acks.flatMap ackBytes).length = 4 * acks.length := by
  induction acks with
  | nil => rfl
  | cons ack acks ih =>
    rw [List.flatMap_cons, List.length_append, ih, List.length_cons]
    simp only [ackBytes, List.length_cons, MessageId.length_toBytes]
    omega

theorem length_body (packet : Packet) : packet.body.length = 4 + packet.payloadBytes.length := by
  simp only [body, List.cons_append, List.length_cons, List.length_append,
    MessageId.length_toBytes]
  omega

theorem ofPayload_payloadBytes (packet : Packet) :
    ofPayload packet.kind packet.id packet.payloadBytes = .ok packet := by
  cases packet with
  | sync acks =>
    simp only [kind, ofPayload, payloadBytes, length_flatMap_ackBytes, decodeAcks_ackBytes]
    simp
  | nack id reason => simp [kind, ofPayload, payloadBytes, Packet.id]; rfl
  | _ => rfl

/-- A kind byte and an id are read as the kind and the id. -/
theorem decodeBody_header (kind : PacketKind) (id : MessageId) (payload : Bytes) :
    decodeBody (kind.code :: id.toBytes ++ payload) = ofPayload kind id payload := by
  obtain ⟨high, middle, low, bytes⟩ := List.length_eq_three.mp id.length_toBytes
  have spelled : MessageId.ofBytes [high, middle, low] = id := by
    rw [← bytes, MessageId.ofBytes_toBytes]
  simp only [bytes, List.cons_append, List.nil_append, decodeBody, PacketKind.ofCode?_code, spelled]

/-- A body spells its packet. -/
theorem decodeBody_body (packet : Packet) : decodeBody packet.body = .ok packet := by
  rw [body, decodeBody_header, ofPayload_payloadBytes]

/-! ## Frames -/

theorem length_encode (packet : Packet) :
    packet.encode.length = 4 + paddedLength packet.body.length := by
  have := le_paddedLength packet.body.length
  simp only [encode, frame, List.length_append, Bytes.length_ofNatBE, List.length_replicate]
  omega

theorem announced_encode (packet : Packet) (rest : Bytes) :
    announced (packet.encode ++ rest) = packet.body.length % 0x100000000 := by
  have front : (packet.encode ++ rest).take 4 = Bytes.ofNatBE 4 packet.body.length := by
    rw [encode, frame, List.append_assoc, List.append_assoc]
    exact List.take_left' (Bytes.length_ofNatBE ..)
  rw [announced, front, Bytes.toNatBE_ofNatBE]

/-- A reader with a limit takes the packet for one in order. -/
def Fits (packet : Packet) (maxBody : Nat) : Prop :=
  packet.body.length ≤ maxBody ∧ packet.body.length < 0x100000000

/-- The bytes of a packet that fits are a frame around its body. -/
theorem framed_encode {packet : Packet} {maxBody : Nat} (fits : packet.Fits maxBody) :
    Framed maxBody packet.encode packet.body where
  least := by
    rw [length_body]
    exact Nat.le_add_right _ _
  limit := fits.1
  announced := by
    have number := packet.announced_encode []
    rwa [List.append_nil, Nat.mod_eq_of_lt fits.2] at number
  content := by
    rw [encode, frame, List.append_assoc, List.drop_left' (Bytes.length_ofNatBE ..),
      List.take_left]
  length := packet.length_encode

end Packet

/-! ## Streams -/

namespace PacketReader

/-- The packet whose bytes are at the front is the next one. -/
theorem next_encode {reader : PacketReader} {packet : Packet} {rest : Bytes}
    (bytes : reader.pending = packet.encode ++ rest) (fits : packet.Fits reader.maxBody) :
    reader.next.1 = .ok (some packet) ∧ reader.next.2.pending = rest ∧
      reader.next.2.maxBody = reader.maxBody := by
  have framed := Packet.framed_encode fits
  cases reader.call with
  | wait unfinished => exact absurd (bytes ▸ unfinished) (framed.not_unfinished rest)
  | badLength bad => exact absurd (bytes ▸ bad) (framed.not_badLength rest)
  | packet other front spelled found =>
    obtain ⟨rfl, rfl, behind⟩ := framed.unique other (bytes.symm.trans front)
    cases packet.decodeBody_body.symm.trans spelled
    exact ⟨found, behind.symm, reader.maxBody_next⟩
  | malformed other front spelled =>
    obtain ⟨rfl, rfl, behind⟩ := framed.unique other (bytes.symm.trans front)
    cases packet.decodeBody_body.symm.trans spelled

/-- While the bytes of the next packet are not all there, there is none. -/
theorem next_partial {reader : PacketReader} {packet : Packet} {rest : Bytes}
    (bytes : reader.pending ++ rest = packet.encode) (missing : rest ≠ [])
    (fits : packet.Fits reader.maxBody) :
    reader.next.1 = .ok none ∧ reader.next.2.pending = reader.pending ∧
      reader.next.2.maxBody = reader.maxBody := by
  have framed := Packet.framed_encode fits
  cases reader.call with
  | wait unfinished nothing kept => exact ⟨nothing, kept, reader.maxBody_next⟩
  | badLength bad =>
    have bad := bad.append rest
    rw [bytes, ← packet.encode.append_nil] at bad
    exact absurd bad (framed.not_badLength [])
  | packet other front | malformed other front =>
    rw [front, List.append_assoc, ← packet.encode.append_nil] at bytes
    obtain ⟨-, -, behind⟩ := other.unique framed bytes
    exact absurd (List.append_eq_nil_iff.mp behind).2 missing

/-- Without bytes there is no packet. -/
theorem next_empty {reader : PacketReader} (bytes : reader.pending = []) :
    reader.next.1 = .ok none ∧ reader.next.2.pending = reader.pending ∧
      reader.next.2.maxBody = reader.maxBody := by
  have few : reader.pending.length < 4 := by simp [bytes]
  cases reader.call with
  | wait unfinished nothing kept => exact ⟨nothing, kept, reader.maxBody_next⟩
  | badLength bad => exact absurd bad.enough (Nat.not_le_of_lt few)
  | packet framed front | malformed framed front =>
    have least := framed.eight_le
    rw [front, List.length_append] at few
    omega

/-- **A reader makes of the bytes of several packets those packets, and keeps what is left**: no
bytes or the first ones of a further packet. -/
theorem drain_encode (packets : List Packet) {reader : PacketReader} {left : Bytes}
    (bytes : reader.pending = packets.flatMap Packet.encode ++ left)
    (fit : ∀ packet ∈ packets, packet.Fits reader.maxBody)
    (unfinished : left = [] ∨ ∃ further : Packet, ∃ rest, rest ≠ [] ∧
      left ++ rest = further.encode ∧ further.Fits reader.maxBody) :
    reader.drain.1 = packets ∧ reader.drain.2.1 = none ∧ reader.drain.2.2.pending = left ∧
      reader.drain.2.2.maxBody = reader.maxBody := by
  induction packets generalizing reader with
  | nil =>
    have bytes : reader.pending = left := bytes
    have none : reader.next.1 = .ok none ∧ reader.next.2.pending = reader.pending ∧
        reader.next.2.maxBody = reader.maxBody := by
      rcases unfinished with empty | ⟨further, rest, missing, whole, fits⟩
      · exact next_empty (bytes.trans empty)
      · exact next_partial (by rw [bytes, whole]) missing fits
    obtain ⟨nothing, pending, maxBody⟩ := none
    rw [drain_of_none nothing]
    exact ⟨rfl, rfl, pending.trans bytes, maxBody⟩
  | cons packet packets ih =>
    rw [List.flatMap_cons, List.append_assoc] at bytes
    obtain ⟨found, pending, maxBody⟩ := next_encode bytes (fit packet (List.mem_cons_self ..))
    rw [← maxBody] at fit unfinished ⊢
    obtain ⟨read, fault, rest, limit⟩ := ih pending
      (fun other listed => fit other (List.mem_cons_of_mem _ listed)) unfinished
    rw [drain_of_some found]
    exact ⟨by rw [read], fault, rest, limit⟩

end PacketReader

end Courier
