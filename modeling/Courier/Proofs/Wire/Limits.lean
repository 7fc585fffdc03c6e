import Courier.Proofs.Wire.Fragments
import Mathlib.Data.List.Forall2

/-!
# Which packets can be read back

A reader that finds no fault has cut what it read into frames, each of which announces
the length of its body, and no length above the limit.  A packet whose body is longer
than the limit, or than four bytes can tell, does not come out of such a frame.  So a
reader reads several packets back exactly when each of them fits
(`PacketReader.readsBack_iff`).
-/

namespace Courier

set_option autoImplicit false

/-! ## Bodies -/

namespace Packet

/-- What reads as entries begins with four bytes for the first one. -/
theorem decodeAcks_cons_ok {code high middle low : UInt8} {rest : Bytes} {acks : List Ack}
    (read : decodeAcks (code :: high :: middle :: low :: rest) = .ok acks) :
    ∃ ack later, acks = ack :: later ∧ decodeAcks rest = .ok later := by
  rw [decodeAcks] at read
  cases tail : decodeAcks rest with
  | error fault =>
    rw [tail] at read
    split at read <;> cases read
  | ok later =>
    rw [tail] at read
    split at read <;> cases read <;> exact ⟨_, _, rfl, rfl⟩

theorem length_of_decodeAcks {bytes : Bytes} {acks : List Ack}
    (read : decodeAcks bytes = .ok acks) : 4 * acks.length ≤ bytes.length := by
  match bytes with
  | _ :: _ :: _ :: _ :: rest =>
    obtain ⟨_, later, rfl, tail⟩ := decodeAcks_cons_ok read
    have shorter := length_of_decodeAcks tail
    simp only [List.length_cons]
    omega
  | [] | [_] | [_, _] | [_, _, _] =>
    cases read
    exact Nat.zero_le _

theorem length_payloadBytes_of_ofPayload {kind : PacketKind} {id : MessageId} {payload : Bytes}
    {packet : Packet} (read : ofPayload kind id payload = .ok packet) :
    packet.payloadBytes.length ≤ payload.length := by
  cases kind with
  | data => cases read; exact Nat.le_refl _
  | ackReceived => cases read; exact Nat.zero_le _
  | ackDelivered => cases read; exact Nat.zero_le _
  | ackOfNack => cases read; exact Nat.zero_le _
  | nack =>
    simp only [ofPayload] at read
    split at read
    · rename_i reason spelled
      cases read
      exact Nat.le_of_eq (congrArg List.length (Bytes.ofText_of_text? spelled))
    · cases read
  | sync =>
    simp only [ofPayload] at read
    split at read
    · cases acks : decodeAcks payload with
      | error fault => rw [acks] at read; cases read
      | ok acks' =>
        rw [acks] at read
        cases read
        rw [payloadBytes, length_flatMap_ackBytes]
        exact length_of_decodeAcks acks
    · cases read

/-- A packet has no longer a body than the one that it was read from. -/
theorem length_body_of_decodeBody {bytes : Bytes} {packet : Packet}
    (read : decodeBody bytes = .ok packet) : packet.body.length ≤ bytes.length := by
  rw [length_body]
  unfold decodeBody at read
  split at read
  · split at read
    · cases read
    · have shorter := length_payloadBytes_of_ofPayload read
      simp only [List.length_cons]
      omega
  · cases read

/-! ## Frames -/

/-- Some bytes are a frame, with no length above the limit, from which the packet was read. -/
structure ReadFrom (maxBody : Nat) (frame : Bytes) (packet : Packet) : Prop where
  length : frame.length = 4 + paddedLength (Bytes.toNatBE (frame.take 4))
  limit : Bytes.toNatBE (frame.take 4) ≤ maxBody
  body : packet.body.length ≤ Bytes.toNatBE (frame.take 4)

/-- A packet that is read from its own bytes fits, and is read from all of them. -/
theorem ReadFrom.fits {maxBody : Nat} {frame more rest : Bytes} {packet : Packet}
    (read : ReadFrom maxBody frame packet) (own : frame ++ more = packet.encode ++ rest) :
    packet.Fits maxBody ∧ more = rest := by
  have announced : Bytes.toNatBE (frame.take 4) = packet.body.length % 0x100000000 := by
    have four : 4 ≤ frame.length := by
      rw [read.length]
      exact Nat.le_add_right _ _
    have whole : frame.take 4 = (frame ++ more).take 4 :=
      (List.take_append_of_le_length four).symm
    rw [whole, own]
    exact packet.announced_encode rest
  have length := read.length
  have limit := read.limit
  have body := read.body
  rw [announced] at length limit body
  have small : packet.body.length < 0x100000000 := by omega
  rw [Nat.mod_eq_of_lt small] at length limit
  refine ⟨⟨limit, small⟩, (List.append_inj own ?_).2⟩
  rw [length, length_encode]

/-- Packets that are read one after the other from their own bytes fit. -/
theorem fit_of_readFrom {maxBody : Nat} {frames : List Bytes} {packets : List Packet}
    (read : List.Forall₂ (ReadFrom maxBody) frames packets) {rest : Bytes}
    (own : frames.flatten ++ rest = packets.flatMap encode) :
    ∀ packet ∈ packets, packet.Fits maxBody := by
  induction read with
  | nil => simp
  | cons first later ih =>
    rw [List.flatten_cons, List.append_assoc, List.flatMap_cons] at own
    obtain ⟨fits, behind⟩ := first.fits own
    exact List.forall_mem_cons.mpr ⟨fits, ih behind⟩

end Packet

/-! ## Readers -/

namespace PacketReader

variable {reader : PacketReader}

/-- The bytes that a packet was read from were at the front, and are gone. -/
theorem exists_frame_of_next {packet : Packet} (found : reader.next.1 = .ok (some packet)) :
    ∃ frame, Packet.ReadFrom reader.maxBody frame packet ∧
      reader.pending = frame ++ reader.next.2.pending := by
  obtain ⟨frame, body, framed, front, spelled⟩ := exists_framed_of_packet found
  have announced : Bytes.toNatBE (frame.take 4) = body.length := framed.announced
  refine ⟨frame, ⟨?_, ?_, ?_⟩, front⟩
  · rw [announced, framed.length]
  · rw [announced]
    exact framed.limit
  · rw [announced]
    exact Packet.length_body_of_decodeBody spelled

/-- What a reader that finds no fault has read was read from frames at the front. -/
theorem exists_frames_of_drain (reader : PacketReader) (faultless : reader.drain.2.1 = none) :
    ∃ frames, List.Forall₂ (Packet.ReadFrom reader.maxBody) frames reader.drain.1 ∧
      reader.pending = frames.flatten ++ reader.drain.2.2.pending := by
  fun_induction drain reader with
  | case1 reader packet found packets fault rest drained ih =>
    rw [drained] at ih
    obtain ⟨frames, read, behind⟩ := ih faultless
    obtain ⟨frame, first, front⟩ := exists_frame_of_next found
    rw [maxBody_next] at read
    exact ⟨frame :: frames, .cons first read, by rw [front, behind]; simp⟩
  | case2 reader none => exact ⟨[], .nil, (unfinished_of_none none).2.symm⟩
  | case3 reader fault found => cases faultless

/-- The same of a reader that was given several buffers. -/
theorem exists_frames_of_feed (buffers : List Bytes)
    (faultless : (reader.feed buffers).2.1 = none) :
    ∃ frames, List.Forall₂ (Packet.ReadFrom reader.maxBody) frames (reader.feed buffers).1 ∧
      reader.pending ++ buffers.flatten = frames.flatten ++ (reader.feed buffers).2.2.pending := by
  induction buffers generalizing reader with
  | nil => exact ⟨[], .nil, by simp [feed]⟩
  | cons buffer buffers ih =>
    have quiet := drain_of_feed_cons faultless
    rw [feed_cons_of_faultless quiet] at faultless ⊢
    obtain ⟨frames, read, front⟩ := exists_frames_of_drain _ quiet
    obtain ⟨more, later, behind⟩ := ih faultless
    rw [maxBody_drain, maxBody_push] at later
    refine ⟨frames ++ more, List.rel_append read later, ?_⟩
    rw [List.flatten_append, List.append_assoc, ← behind, ← List.append_assoc, ← front,
      pending_push, List.flatten_cons, List.append_assoc]

/-- **Packets are read back exactly when all of them fit.** -/
theorem readsBack_iff (reader : PacketReader) {packets : List Packet}
    (empty : reader.pending = []) {buffers : List Bytes}
    (cut : buffers.flatten = packets.flatMap Packet.encode) :
    ((reader.feed buffers).1 = packets ∧ (reader.feed buffers).2.1 = none ∧
        (reader.feed buffers).2.2.pending = []) ↔
      ∀ packet ∈ packets, packet.Fits reader.maxBody := by
  constructor
  · rintro ⟨read, faultless, nothing⟩
    obtain ⟨frames, parts, whole⟩ := exists_frames_of_feed buffers faultless
    rw [read] at parts
    rw [empty, nothing, List.nil_append, cut] at whole
    exact Packet.fit_of_readFrom parts whole.symm
  · exact fun fit => feed_all reader empty fit cut

end PacketReader

end Courier
