import Courier.Wire.Reader
import Mathlib.Data.List.Basic

/-!
# Frames at the front of a stream

What a call of a reader does is decided by the first bytes that it holds.  They are a part
of a frame, they announce a length out of bounds, or they are a whole frame, whose body
spells a packet or does not (`PacketReader.Call`, `PacketReader.call`).  Only a whole frame
is consumed, and nothing else with it.

The cases exclude each other, and what has been decided stays so when more bytes follow:
a length out of bounds is still out of bounds, and a frame at the front is the same frame
(`Packet.BadLength.append`, `Packet.Framed.unique`).
-/

namespace Courier

set_option autoImplicit false

namespace Packet

/-- The body length that the first four bytes announce. -/
def announced (bytes : Bytes) : Nat := Bytes.toNatBE (bytes.take 4)

/-- The announced length stays in view when more bytes follow. -/
theorem announced_append {bytes : Bytes} (enough : 4 ≤ bytes.length) (more : Bytes) :
    announced (bytes ++ more) = announced bytes := by
  rw [announced, announced, List.take_append_of_le_length enough]

/-! ## Three kinds of beginnings -/

/-- The bytes are a part of a frame, in whose length there is nothing wrong as far as it is there.
-/
def Unfinished (maxBody : Nat) (bytes : Bytes) : Prop :=
  bytes.length < 4 ∨
    4 ≤ announced bytes ∧ announced bytes ≤ maxBody ∧
      bytes.length < 4 + paddedLength (announced bytes)

/-- The bytes announce a length that is out of bounds. -/
structure BadLength (maxBody : Nat) (bytes : Bytes) : Prop where
  enough : 4 ≤ bytes.length
  bounds : announced bytes < 4 ∨ maxBody < announced bytes

/-- Some bytes are a frame around a body: its length, which is in bounds, the body itself, and as
many bytes of any kind as there are to the next multiple of four. -/
structure Framed (maxBody : Nat) (frame body : Bytes) : Prop where
  least : 4 ≤ body.length
  limit : body.length ≤ maxBody
  announced : announced frame = body.length
  content : (frame.drop 4).take body.length = body
  length : frame.length = 4 + paddedLength body.length

variable {maxBody : Nat} {bytes frame body rest : Bytes}

theorem Unfinished.not_badLength (unfinished : Unfinished maxBody bytes) :
    ¬ BadLength maxBody bytes := by
  rintro ⟨enough, bounds⟩
  rcases unfinished with short | ⟨least, limit, _⟩
  · exact absurd enough (Nat.not_le_of_lt short)
  · omega

theorem BadLength.append (bad : BadLength maxBody bytes) (more : Bytes) :
    BadLength maxBody (bytes ++ more) where
  enough := by
    rw [List.length_append]
    exact Nat.le_add_right_of_le bad.enough
  bounds := by
    rw [announced_append bad.enough]
    exact bad.bounds

namespace Framed

variable (framed : Framed maxBody frame body)

include framed

/-- A frame is its four bytes of length longer than the body, rounded up to a multiple of four. -/
theorem rounds :
    4 ∣ frame.length ∧ 4 + body.length ≤ frame.length ∧ frame.length < 8 + body.length := by
  rw [framed.length, paddedLength]
  omega

/-- A frame has at least eight bytes. -/
theorem eight_le : 8 ≤ frame.length := by
  have least := framed.least
  have longer := framed.rounds.2.1
  omega

theorem announced_front (rest : Bytes) : Packet.announced (frame ++ rest) = body.length := by
  have enough : 4 ≤ frame.length := Nat.le_trans (by decide) framed.eight_le
  rw [announced_append enough, framed.announced]

theorem not_unfinished (rest : Bytes) : ¬ Unfinished maxBody (frame ++ rest) := by
  have length := framed.length
  rintro (short | ⟨_, _, short⟩)
  · rw [List.length_append] at short
    omega
  · rw [framed.announced_front, List.length_append] at short
    omega

theorem not_badLength (rest : Bytes) : ¬ BadLength maxBody (frame ++ rest) := by
  rintro ⟨_, bounds⟩
  rw [framed.announced_front] at bounds
  rcases bounds with few | many
  · exact absurd framed.least (Nat.not_le_of_lt few)
  · exact absurd framed.limit (Nat.not_le_of_lt many)

/-- The frame at the front is determined by the bytes. -/
theorem unique {frame' body' rest' : Bytes} (other : Framed maxBody frame' body')
    (same : frame ++ rest = frame' ++ rest') : frame = frame' ∧ body = body' ∧ rest = rest' := by
  have number : body.length = body'.length := by
    rw [← framed.announced_front rest, same, other.announced_front]
  have length : frame.length = frame'.length := by rw [framed.length, other.length, number]
  obtain ⟨rfl, rfl⟩ := List.append_inj same length
  refine ⟨rfl, ?_, rfl⟩
  rw [← framed.content, number, other.content]

end Framed

/-- Enough bytes, with a length in bounds, begin with a frame. -/
theorem framed_take (least : 4 ≤ announced bytes) (limit : announced bytes ≤ maxBody)
    (whole : 4 + paddedLength (announced bytes) ≤ bytes.length) :
    Framed maxBody (bytes.take (4 + paddedLength (announced bytes)))
      (((bytes.take (4 + paddedLength (announced bytes))).drop 4).take (announced bytes)) := by
  have padded := le_paddedLength (announced bytes)
  have length : (((bytes.take (4 + paddedLength (announced bytes))).drop 4).take
      (announced bytes)).length = announced bytes := by
    simp only [List.length_take, List.length_drop]
    omega
  refine ⟨length.symm ▸ least, length.symm ▸ limit, ?_, by rw [length], ?_⟩
  · rw [length, announced, List.take_take, Nat.min_eq_left (Nat.le_add_right _ _)]
    rfl
  · rw [length, List.length_take_of_le whole]

end Packet

/-! ## Faults -/

/-- The announced length of a body is out of bounds. -/
def PacketError.IsLength : PacketError → Prop
  | .badLength _ _ => True
  | _ => False

namespace Packet

/-- The entries of a sync have no fault in a length. -/
theorem not_isLength_of_decodeAcks {bytes : Bytes} {fault : PacketError}
    (read : decodeAcks bytes = .error fault) : ¬ fault.IsLength := by
  match bytes with
  | code :: high :: middle :: low :: rest =>
    rw [decodeAcks] at read
    cases later : decodeAcks rest with
    | error other =>
      have inner := not_isLength_of_decodeAcks later
      rw [later] at read
      split at read <;> cases read <;> first | exact inner | exact not_false
    | ok acks =>
      rw [later] at read
      split at read <;> cases read <;> exact not_false
  | [] | [_] | [_, _] | [_, _, _] => cases read

/-- A body that has been taken out of a frame has no fault in its length. -/
theorem not_isLength_of_decodeBody {bytes : Bytes} {fault : PacketError}
    (read : decodeBody bytes = .error fault) : ¬ fault.IsLength := by
  unfold decodeBody at read
  split at read
  · rename_i code high middle low payload
    split at read
    · cases read
      exact not_false
    · rename_i kind known
      cases kind with
      | data | ackReceived | ackDelivered | ackOfNack => cases read
      | nack =>
        simp only [ofPayload] at read
        split at read <;> cases read
        exact not_false
      | sync =>
        simp only [ofPayload] at read
        split at read
        · cases entries : decodeAcks payload with
          | error other =>
            rw [entries] at read
            cases read
            exact not_isLength_of_decodeAcks entries
          | ok acks => rw [entries] at read; cases read
        · cases read
          exact not_false
  · cases read
    exact not_false

end Packet

/-! ## Calls -/

namespace PacketReader

theorem announced_eq (reader : PacketReader) :
    reader.announced = Packet.announced reader.pending := by
  rw [announced, ByteQueue.take_eq]
  rfl

theorem size_buffer_eq (reader : PacketReader) : reader.buffer.size = reader.pending.length :=
  (ByteQueue.length_toBytes _).symm

theorem frameLength_eq (reader : PacketReader) :
    reader.frameLength = 4 + paddedLength (Packet.announced reader.pending) := by
  rw [frameLength, announced_eq]

theorem body_eq (reader : PacketReader) :
    reader.body = ((reader.pending.take (4 + paddedLength (Packet.announced reader.pending))).drop
      4).take (Packet.announced reader.pending) := by
  rw [body, ByteQueue.take_eq, frameLength_eq, announced_eq]
  rfl

@[simp] theorem maxBody_push (reader : PacketReader) (bytes : Bytes) :
    (reader.push bytes).maxBody = reader.maxBody := rfl

@[simp] theorem maxBody_next (reader : PacketReader) : reader.next.2.maxBody = reader.maxBody := by
  simp only [next]
  split
  · rfl
  split
  · rfl
  split <;> rfl

/-- A call, by the bytes that the reader holds. -/
theorem next_eq (reader : PacketReader) :
    reader.next =
      if reader.pending.length < 4 then (.ok none, reader.settled)
      else if Packet.announced reader.pending < 4 ∨
          reader.maxBody < Packet.announced reader.pending then
        (.error (.badLength (Packet.announced reader.pending) reader.maxBody), reader.settled)
      else if reader.pending.length < 4 + paddedLength (Packet.announced reader.pending) then
        (.ok none, reader.settled)
      else
        ((Packet.decodeBody (((reader.pending.take
            (4 + paddedLength (Packet.announced reader.pending))).drop 4).take
              (Packet.announced reader.pending))).map some, reader.settled.afterFrame) := by
  simp only [next, size_buffer_eq, announced_eq, frameLength_eq, pending_settled, body_eq]
  rfl

/-- What a call makes of the bytes at the front, and what it takes of them. -/
inductive Call (reader : PacketReader) : Prop where
  | wait (unfinished : Packet.Unfinished reader.maxBody reader.pending)
      (nothing : reader.next.1 = .ok none) (kept : reader.next.2.pending = reader.pending)
  | badLength (bad : Packet.BadLength reader.maxBody reader.pending)
      (found : reader.next.1 =
        .error (.badLength (Packet.announced reader.pending) reader.maxBody))
      (kept : reader.next.2.pending = reader.pending)
  | packet {frame body : Bytes} {packet : Packet}
      (framed : Packet.Framed reader.maxBody frame body)
      (front : reader.pending = frame ++ reader.next.2.pending)
      (spelled : Packet.decodeBody body = .ok packet) (found : reader.next.1 = .ok (some packet))
  | malformed {frame body : Bytes} {fault : PacketError}
      (framed : Packet.Framed reader.maxBody frame body)
      (front : reader.pending = frame ++ reader.next.2.pending)
      (spelled : Packet.decodeBody body = .error fault) (found : reader.next.1 = .error fault)

/-- Every call does what the bytes at the front ask for. -/
theorem call (reader : PacketReader) : reader.Call := by
  have done := reader.next_eq
  by_cases few : reader.pending.length < 4
  · rw [if_pos few] at done
    refine .wait (.inl few) (congrArg Prod.fst done) ?_
    rw [done, pending_settled]
  by_cases bounds : Packet.announced reader.pending < 4 ∨
      reader.maxBody < Packet.announced reader.pending
  · rw [if_neg few, if_pos bounds] at done
    refine .badLength ⟨Nat.le_of_not_lt few, bounds⟩ (congrArg Prod.fst done) ?_
    rw [done, pending_settled]
  have least : 4 ≤ Packet.announced reader.pending := by omega
  have limit : Packet.announced reader.pending ≤ reader.maxBody := by omega
  by_cases part : reader.pending.length < 4 + paddedLength (Packet.announced reader.pending)
  · rw [if_neg few, if_neg bounds, if_pos part] at done
    refine .wait (.inr ⟨least, limit, part⟩) (congrArg Prod.fst done) ?_
    rw [done, pending_settled]
  · rw [if_neg few, if_neg bounds, if_neg part] at done
    have framed := Packet.framed_take least limit (Nat.le_of_not_lt part)
    have front : reader.pending =
        reader.pending.take (4 + paddedLength (Packet.announced reader.pending)) ++
          reader.next.2.pending := by
      rw [done, pending_afterFrame, frameLength_eq, pending_settled, List.take_append_drop]
    have read := congrArg Prod.fst done
    generalize spelled : Packet.decodeBody _ = decoded at read
    cases decoded with
    | ok packet => exact .packet framed front spelled read
    | error fault => exact .malformed framed front spelled read

variable {reader : PacketReader}

/-- A packet is taken with its frame. -/
theorem exists_framed_of_packet {packet : Packet} (found : reader.next.1 = .ok (some packet)) :
    ∃ frame body, Packet.Framed reader.maxBody frame body ∧
      reader.pending = frame ++ reader.next.2.pending ∧ Packet.decodeBody body = .ok packet := by
  cases reader.call with
  | wait _ nothing => cases nothing.symm.trans found
  | badLength _ fault => cases fault.symm.trans found
  | malformed _ _ _ fault => cases fault.symm.trans found
  | packet framed front spelled read =>
    cases read.symm.trans found
    exact ⟨_, _, framed, front, spelled⟩

/-- Where no packet is found, nothing is taken. -/
theorem unfinished_of_none (none : reader.next.1 = .ok none) :
    Packet.Unfinished reader.maxBody reader.pending ∧
      reader.next.2.pending = reader.pending := by
  cases reader.call with
  | wait unfinished _ kept => exact ⟨unfinished, kept⟩
  | badLength _ fault => cases fault.symm.trans none
  | malformed _ _ _ fault => cases fault.symm.trans none
  | packet _ _ _ read => cases read.symm.trans none

/-- A fault is a length, which stays, or a body, which is taken with its frame. -/
theorem fault_cases {fault : PacketError} (faulty : reader.next.1 = .error fault) :
    (fault = .badLength (Packet.announced reader.pending) reader.maxBody ∧
        Packet.BadLength reader.maxBody reader.pending ∧
        reader.next.2.pending = reader.pending) ∨
      ∃ frame body, Packet.Framed reader.maxBody frame body ∧
        reader.pending = frame ++ reader.next.2.pending ∧
        Packet.decodeBody body = .error fault := by
  cases reader.call with
  | wait _ nothing => cases nothing.symm.trans faulty
  | packet _ _ _ read => cases read.symm.trans faulty
  | badLength bad found kept =>
    cases found.symm.trans faulty
    exact .inl ⟨rfl, bad, kept⟩
  | malformed framed front spelled found =>
    cases found.symm.trans faulty
    exact .inr ⟨_, _, framed, front, spelled⟩

/-! ## Draining -/

theorem drain_of_none {reader : PacketReader} (none : reader.next.1 = .ok none) :
    reader.drain = ([], .none, reader.next.2) := by
  rw [drain]
  split <;> simp_all

theorem drain_of_some {reader : PacketReader} {packet : Packet}
    (found : reader.next.1 = .ok (some packet)) :
    reader.drain = (packet :: reader.next.2.drain.1, reader.next.2.drain.2) := by
  rw [drain]
  split <;> simp_all

theorem drain_of_error {reader : PacketReader} {fault : PacketError}
    (found : reader.next.1 = .error fault) :
    reader.drain = ([], some fault, reader.next.2) := by
  rw [drain]
  split <;> simp_all

end PacketReader

end Courier
