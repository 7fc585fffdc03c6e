import Courier.Proofs.Wire.Fragments

/-!
# The verdict on a stream

A stream of bytes may be malformed anywhere.  `Packet.Reads` says what a reader with some
limit makes of some bytes, by the form of the bytes alone: which packets they spell, at
which fault this ends, if there is one, and what is left.  Bytes have one reading
(`Packet.Reads.unique`), and a reader that is drained after each buffer gives it, so where
the buffers end cannot be seen, neither in the packets nor in the fault
(`PacketReader.feed_verdict`).

What a call takes is a whole frame or nothing (`PacketReader.Metered`).  So draining ends,
and a length out of bounds, which is not taken, is found again whatever follows.
-/

namespace Courier

set_option autoImplicit false

/-! ## The form of a stream -/

namespace Packet

/-- What bytes say to a reader with a limit: the packets at the front, the fault behind them if
there is one, and the bytes that are left. -/
inductive Reads (maxBody : Nat) : (bytes : Bytes) → (packets : List Packet) →
    (fault : Option PacketError) → (left : Bytes) → Prop where
  /-- The next frame is not all there. -/
  | wait {bytes : Bytes} (unfinished : Unfinished maxBody bytes) : Reads maxBody bytes [] none bytes
  /-- The next length is out of bounds. -/
  | badLength {bytes : Bytes} (bad : BadLength maxBody bytes) :
      Reads maxBody bytes [] (some (.badLength (announced bytes) maxBody)) bytes
  /-- The next body spells no packet. -/
  | malformed {frame body rest : Bytes} {fault : PacketError} (framed : Framed maxBody frame body)
      (spelled : decodeBody body = .error fault) :
      Reads maxBody (frame ++ rest) [] (some fault) rest
  | packet {frame body rest left : Bytes} {packet : Packet} {packets : List Packet}
      {fault : Option PacketError} (framed : Framed maxBody frame body)
      (spelled : decodeBody body = .ok packet) (later : Reads maxBody rest packets fault left) :
      Reads maxBody (frame ++ rest) (packet :: packets) fault left

namespace Reads

variable {maxBody : Nat} {bytes frame body rest left : Bytes} {packets : List Packet}

/-- Bytes that are read without a fault may be followed by others. -/
theorem append (first : Reads maxBody bytes packets none left) {more left' : Bytes}
    {others : List Packet} {fault : Option PacketError}
    (second : Reads maxBody (left ++ more) others fault left') :
    Reads maxBody (bytes ++ more) (packets ++ others) fault left' := by
  generalize quiet : (none : Option PacketError) = fault' at first
  induction first with
  | wait => exact second
  | badLength => cases quiet
  | malformed => cases quiet
  | packet framed spelled _ ih =>
    rw [List.append_assoc]
    exact .packet framed spelled (ih second quiet)

/-- A fault stays, whatever follows. -/
theorem append_of_fault {fault : PacketError}
    (reads : Reads maxBody bytes packets (some fault) left) (more : Bytes) :
    Reads maxBody (bytes ++ more) packets (some fault) (left ++ more) := by
  generalize found : some fault = fault' at reads
  induction reads with
  | wait => cases found
  | badLength bad =>
    rw [← announced_append bad.enough more]
    exact .badLength (bad.append more)
  | malformed framed spelled =>
    rw [List.append_assoc]
    exact .malformed framed spelled
  | packet framed spelled _ ih =>
    rw [List.append_assoc]
    exact .packet framed spelled (ih found)

/-- Where there is no fault, what is left is a part of a frame. -/
theorem unfinished (reads : Reads maxBody bytes packets none left) : Unfinished maxBody left := by
  generalize quiet : (none : Option PacketError) = fault' at reads
  induction reads with
  | wait unfinished => exact unfinished
  | badLength => cases quiet
  | malformed => cases quiet
  | packet _ _ _ ih => exact ih quiet

variable {fault : Option PacketError}

/-- Bytes in front of which the frame of a packet stands are read in one way. -/
theorem of_packet {packet : Packet} (framed : Framed maxBody frame body)
    (spelled : decodeBody body = .ok packet)
    (reads : Reads maxBody (frame ++ rest) packets fault left) :
    ∃ later, packets = packet :: later ∧ Reads maxBody rest later fault left := by
  generalize same : frame ++ rest = bytes at reads
  cases reads with
  | wait unfinished => exact absurd (same ▸ unfinished) (framed.not_unfinished rest)
  | badLength bad => exact absurd (same ▸ bad) (framed.not_badLength rest)
  | malformed other wrong =>
    obtain ⟨-, rfl, -⟩ := framed.unique other same
    cases spelled.symm.trans wrong
  | packet other right later =>
    obtain ⟨-, rfl, rfl⟩ := framed.unique other same
    cases spelled.symm.trans right
    exact ⟨_, rfl, later⟩

/-- Bytes in front of which a body stands that spells no packet are read in one way. -/
theorem of_malformed {wrong : PacketError} (framed : Framed maxBody frame body)
    (spelled : decodeBody body = .error wrong)
    (reads : Reads maxBody (frame ++ rest) packets fault left) :
    packets = [] ∧ fault = some wrong ∧ left = rest := by
  generalize same : frame ++ rest = bytes at reads
  cases reads with
  | wait unfinished => exact absurd (same ▸ unfinished) (framed.not_unfinished rest)
  | badLength bad => exact absurd (same ▸ bad) (framed.not_badLength rest)
  | malformed other found =>
    obtain ⟨-, rfl, rfl⟩ := framed.unique other same
    cases spelled.symm.trans found
    exact ⟨rfl, rfl, rfl⟩
  | packet other right =>
    obtain ⟨-, rfl, -⟩ := framed.unique other same
    cases spelled.symm.trans right

/-- **Bytes say one thing**: what is read of them depends on nothing else. -/
theorem unique (first : Reads maxBody bytes packets fault left) {packets' : List Packet}
    {fault' : Option PacketError} {left' : Bytes}
    (second : Reads maxBody bytes packets' fault' left') :
    packets' = packets ∧ fault' = fault ∧ left' = left := by
  induction first generalizing packets' with
  | wait unfinished =>
    cases second with
    | wait => exact ⟨rfl, rfl, rfl⟩
    | badLength bad => exact absurd bad unfinished.not_badLength
    | malformed framed | packet framed => exact absurd unfinished (framed.not_unfinished _)
  | badLength bad =>
    cases second with
    | wait unfinished => exact absurd bad unfinished.not_badLength
    | badLength => exact ⟨rfl, rfl, rfl⟩
    | malformed framed | packet framed => exact absurd bad (framed.not_badLength _)
  | malformed framed spelled => exact second.of_malformed framed spelled
  | packet framed spelled _ ih =>
    obtain ⟨later, rfl, reads⟩ := second.of_packet framed spelled
    obtain ⟨rfl, others⟩ := ih reads
    exact ⟨rfl, others⟩

end Reads

end Packet

/-! ## Readers -/

namespace PacketReader

open Packet

/-- **A reader that is drained makes of its bytes what they say.** -/
theorem reads_drain (reader : PacketReader) :
    Reads reader.maxBody reader.pending reader.drain.1 reader.drain.2.1
      reader.drain.2.2.pending := by
  fun_induction drain reader with
  | case1 reader packet found packets fault rest drained ih =>
    rw [drained, maxBody_next] at ih
    obtain ⟨frame, body, framed, front, spelled⟩ := exists_framed_of_packet found
    rw [front]
    exact .packet framed spelled ih
  | case2 reader none =>
    obtain ⟨unfinished, kept⟩ := unfinished_of_none none
    rw [kept]
    exact .wait unfinished
  | case3 reader fault faulty =>
    rcases fault_cases faulty with ⟨rfl, bad, kept⟩ | ⟨frame, body, framed, front, spelled⟩
    · rw [kept]
      exact .badLength bad
    · rw [front]
      exact .malformed framed spelled

/-- **Several buffers are read as their bytes are in one piece.**  The reader holds no more than a
part of a frame before.  Where there is a fault, the bytes of the buffers behind it are left. -/
theorem reads_feed (reader : PacketReader) (unfinished : Unfinished reader.maxBody reader.pending)
    (buffers : List Bytes) :
    ∃ unread, Reads reader.maxBody (reader.pending ++ buffers.flatten) (reader.feed buffers).1
      (reader.feed buffers).2.1 ((reader.feed buffers).2.2.pending ++ unread) := by
  induction buffers generalizing reader with
  | nil =>
    refine ⟨[], ?_⟩
    rw [List.flatten_nil, List.append_nil, feed, List.append_nil]
    exact .wait unfinished
  | cons buffer buffers ih =>
    have read := (reader.push buffer).reads_drain
    have maxBody := (reader.push buffer).maxBody_drain
    rw [maxBody_push, pending_push] at read
    rw [List.flatten_cons, ← List.append_assoc, feed]
    generalize (reader.push buffer).drain = drained at read maxBody
    obtain ⟨packets, fault, after⟩ := drained
    cases fault with
    | some fault => exact ⟨buffers.flatten, read.append_of_fault _⟩
    | none =>
      change after.maxBody = reader.maxBody at maxBody
      obtain ⟨unread, later⟩ := ih after (maxBody ▸ read.unfinished)
      rw [maxBody] at later
      exact ⟨unread, read.append later⟩

/-- What a new reader makes of several buffers is what their bytes say. -/
theorem reads_feed_new (maxBody : Nat) (buffers : List Bytes) :
    ∃ left, Reads (new maxBody).maxBody buffers.flatten ((new maxBody).feed buffers).1
      ((new maxBody).feed buffers).2.1 left := by
  obtain ⟨unread, fed⟩ := (new maxBody).reads_feed (.inl (Nat.zero_lt_succ 3)) buffers
  exact ⟨_, fed⟩

/-- A new reader gives the reading of the bytes, however they are cut. -/
theorem feed_of_reads {maxBody : Nat} {bytes left : Bytes} {packets : List Packet}
    {fault : Option PacketError} (reads : Reads (new maxBody).maxBody bytes packets fault left)
    {buffers : List Bytes} (cut : buffers.flatten = bytes) :
    ((new maxBody).feed buffers).1 = packets ∧ ((new maxBody).feed buffers).2.1 = fault := by
  obtain ⟨_, fed⟩ := reads_feed_new maxBody buffers
  obtain ⟨read, ended, _⟩ := reads.unique (cut ▸ fed)
  exact ⟨read, ended⟩

end PacketReader

/-! ## What calls take -/

/-- What can be done to a reader. -/
inductive ReaderOperation where
  | push (bytes : Bytes)
  | call

namespace PacketReader

/-- The reader after an operation. -/
def operate (reader : PacketReader) : ReaderOperation → PacketReader
  | .push bytes => reader.push bytes
  | .call => reader.next.2

/-- The reader after several operations. -/
def operateAll (reader : PacketReader) (operations : List ReaderOperation) : PacketReader :=
  operations.foldl operate reader

variable {reader : PacketReader}

/-- A length out of bounds is found, and is not taken. -/
theorem next_of_badLength (bad : Packet.BadLength reader.maxBody reader.pending) :
    reader.next.1 = .error (.badLength (Packet.announced reader.pending) reader.maxBody) ∧
      reader.next.2.pending = reader.pending := by
  cases reader.call with
  | wait unfinished => exact absurd bad unfinished.not_badLength
  | badLength _ found kept => exact ⟨found, kept⟩
  | packet framed front | malformed framed front =>
    exact absurd (front ▸ bad) (framed.not_badLength _)

/-- A length out of bounds is found again, whatever is done to the reader. -/
theorem next_operateAll_of_badLength (bad : Packet.BadLength reader.maxBody reader.pending)
    (operations : List ReaderOperation) :
    (reader.operateAll operations).next.1 =
      .error (.badLength (Packet.announced reader.pending) reader.maxBody) := by
  induction operations generalizing reader with
  | nil => exact (next_of_badLength bad).1
  | cons operation operations ih =>
    cases operation with
    | push bytes =>
      have still : Packet.BadLength (reader.push bytes).maxBody (reader.push bytes).pending := by
        rw [maxBody_push, pending_push]
        exact bad.append bytes
      have later := ih still
      rwa [maxBody_push, pending_push, Packet.announced_append bad.enough] at later
    | call =>
      have kept := (next_of_badLength bad).2
      have still : Packet.BadLength reader.next.2.maxBody reader.next.2.pending := by
        rw [maxBody_next, kept]
        exact bad
      have later := ih still
      rwa [maxBody_next, kept] at later

/-- What calls take of the bytes that a reader holds. -/
structure Metered (reader : PacketReader) : Prop where
  /-- A packet is taken with the frame around its body, whose length is rounded up to a multiple of
  four. -/
  packet : ∀ packet, reader.next.1 = .ok (some packet) →
    ∃ frame body, reader.pending = frame ++ reader.next.2.pending ∧
      Packet.Framed reader.maxBody frame body ∧ Packet.decodeBody body = .ok packet ∧
      4 ∣ frame.length ∧ 4 + body.length ≤ frame.length ∧ frame.length < 8 + body.length ∧
      8 ≤ frame.length
  /-- No more than one packet is found for every eight bytes, and then the calls give no packet. -/
  ends : 8 * reader.drain.1.length ≤ reader.pending.length ∧
    ∀ packet, (reader.operateAll (.replicate reader.drain.1.length .call)).next.1 ≠
      .ok (some packet)
  nothing : reader.next.1 = .ok none → reader.next.2.pending = reader.pending
  /-- A length out of bounds is not taken, and is found again whatever follows. -/
  badLength : ∀ length limit, reader.next.1 = .error (.badLength length limit) →
    reader.next.2.pending = reader.pending ∧
      ∀ operations,
        (reader.next.2.operateAll operations).next.1 = .error (.badLength length limit)

/-- The packets that are drained take eight bytes each at least, and a call for each finds them. -/
theorem drain_ends (reader : PacketReader) :
    8 * reader.drain.1.length ≤ reader.pending.length ∧
      ∀ packet, (reader.operateAll (.replicate reader.drain.1.length .call)).next.1 ≠
        .ok (some packet) := by
  fun_induction drain reader with
  | case1 reader packet found packets fault rest drained ih =>
    rw [drained] at ih
    obtain ⟨enough, finished⟩ := ih
    obtain ⟨frame, body, framed, front, -⟩ := exists_framed_of_packet found
    have least := framed.eight_le
    refine ⟨?_, finished⟩
    simp only [List.length_cons] at enough ⊢
    rw [front, List.length_append]
    omega
  | case2 reader none =>
    refine ⟨Nat.zero_le _, fun packet found => ?_⟩
    cases none.symm.trans found
  | case3 reader fault faulty =>
    refine ⟨Nat.zero_le _, fun packet found => ?_⟩
    cases faulty.symm.trans found

theorem metered (reader : PacketReader) : reader.Metered where
  packet packet found := by
    obtain ⟨frame, body, framed, front, spelled⟩ := exists_framed_of_packet found
    obtain ⟨divides, longer, shorter⟩ := framed.rounds
    exact ⟨frame, body, front, framed, spelled, divides, longer, shorter, framed.eight_le⟩
  ends := reader.drain_ends
  nothing none := (unfinished_of_none none).2
  badLength length limit found := by
    rcases fault_cases found with ⟨same, bad, kept⟩ | ⟨frame, body, framed, front, spelled⟩
    · rw [same]
      exact ⟨kept, fun operations => next_operateAll_of_badLength bad (.call :: operations)⟩
    · exact absurd trivial (Packet.not_isLength_of_decodeBody spelled)

/-- **The verdict on a stream depends on its bytes only.**  However they are cut, the same packets
come out in front of the same fault, and these are what the bytes say.  And every call takes a frame
or nothing. -/
theorem feed_verdict (maxBody : Nat) {buffers buffers' : List Bytes}
    (same : buffers.flatten = buffers'.flatten) :
    (((new maxBody).feed buffers).1 = ((new maxBody).feed buffers').1 ∧
      ((new maxBody).feed buffers).2.1 = ((new maxBody).feed buffers').2.1) ∧
    (∃ left, Packet.Reads (max maxBody 4) buffers.flatten ((new maxBody).feed buffers).1
      ((new maxBody).feed buffers).2.1 left) ∧
    ∀ reader : PacketReader, reader.Metered := by
  obtain ⟨left, reads⟩ := reads_feed_new maxBody buffers
  obtain ⟨read, ended⟩ := feed_of_reads reads same.symm
  exact ⟨⟨read.symm, ended.symm⟩, ⟨left, reads⟩, metered⟩

/-- A packet, a frame of no known kind around a body of five bytes, and a length out of bounds, each
byte in a buffer of its own. -/
def garbled : List Bytes :=
  ((Packet.ackOfNack (.ofNat 3)).encode ++ [0, 0, 0, 5, 0xEE, 0, 0, 1, 9, 7, 7, 7] ++
    [0, 0, 0, 2]).map fun byte => [byte]

/-- Each byte may come alone, or all of them at once: the packet is read, and then the kind is found
wrong.  The length behind it is found out of bounds whatever follows. -/
theorem feed_verdict_garbled :
    garbled.flatten = [garbled.flatten].flatten ∧
      ((new 8).feed garbled).1 = [.ackOfNack (.ofNat 3)] ∧
      ((new 8).feed garbled).2.1 = some (.unknownKind 0xEE) ∧
      ((new 8).feed [garbled.flatten]).1 = [.ackOfNack (.ofNat 3)] ∧
      ((new 8).feed [garbled.flatten]).2.1 = some (.unknownKind 0xEE) ∧
      ∀ operations, (((new 8).push [0, 0, 0, 2]).next.2.operateAll operations).next.1 =
        .error (.badLength 2 8) := by
  have same : garbled.flatten = [garbled.flatten].flatten := (List.append_nil _).symm
  have framed : Packet.Framed (new 8).maxBody [0, 0, 0, 5, 0xEE, 0, 0, 1, 9, 7, 7, 7]
      [0xEE, 0, 0, 1, 9] := ⟨by decide, by decide, by decide, by decide, by decide⟩
  have fits : (Packet.ackOfNack (.ofNat 3)).Fits (new 8).maxBody := by
    unfold Packet.Fits
    decide
  have bytes : garbled.flatten = (Packet.ackOfNack (.ofNat 3)).encode ++
      ([0, 0, 0, 5, 0xEE, 0, 0, 1, 9, 7, 7, 7] ++ [0, 0, 0, 2]) := by decide +kernel
  have reads : Packet.Reads (new 8).maxBody garbled.flatten [.ackOfNack (.ofNat 3)]
      (some (.unknownKind 0xEE)) [0, 0, 0, 2] := by
    rw [bytes]
    exact .packet (Packet.framed_encode fits) (Packet.decodeBody_body _) (.malformed framed rfl)
  obtain ⟨⟨packets, faults⟩, -, metered⟩ := feed_verdict 8 same
  obtain ⟨read, ended⟩ := feed_of_reads reads rfl
  refine ⟨same, read, ended, packets.symm.trans read, faults.symm.trans ended, ?_⟩
  exact ((metered _).badLength 2 8 rfl).2

end PacketReader

end Courier
