import Courier.Proofs.Wire.Reading
import Mathlib.Data.List.Infix

/-!
# Packets from buffers of any cut

A stream hands over its bytes in buffers that end anywhere: within a length, within
a header, within the padding, or before a single byte.  A reader that is drained
after each buffer has read, after every one of them, just the packets whose frames
end within the bytes so far, and holds the bytes behind these frames.  So the cut
cannot be seen in what was read (`PacketReader.feed_encode`).

The invariant is that what has arrived are the frames of the packets read so far and
a part of the next frame, which the reader holds (`Packet.Split`).
-/

namespace Courier

set_option autoImplicit false

/-! ## Frames -/

namespace Packet

theorem length_encode_pos (packet : Packet) : 0 < packet.encode.length := by
  rw [length_encode]
  omega

/-- Where the frame of the packet of a place ends, if several packets are written in order. -/
def frameEnd (packets : List Packet) (place : Nat) : Nat :=
  ((packets.take (place + 1)).flatMap encode).length

/-- The bytes are the frames of some first packets and what is left, and this is less than the frame
of the next packet. -/
def Split (packets : List Packet) (bytes : Bytes) (whole : List Packet) (left : Bytes) : Prop :=
  ∃ unread, packets = whole ++ unread ∧ bytes = whole.flatMap encode ++ left ∧
    ∀ next ∈ unread.head?, left.length < next.encode.length

variable {packets whole : List Packet} {bytes rest left : Bytes}

/-- The first bytes of several packets split. -/
theorem exists_split (packets : List Packet) (cut : bytes ++ rest = packets.flatMap encode) :
    ∃ whole left, Split packets bytes whole left := by
  induction packets generalizing bytes with
  | nil =>
    obtain ⟨rfl, rfl⟩ := List.append_eq_nil_iff.mp cut
    exact ⟨[], [], [], rfl, rfl, fun _ none => by cases none⟩
  | cons packet packets ih =>
    rw [List.flatMap_cons] at cut
    by_cases short : bytes.length < packet.encode.length
    · exact ⟨[], bytes, packet :: packets, rfl, rfl, by simpa using short⟩
    · obtain ⟨more, rfl⟩ : packet.encode <+: bytes :=
        List.prefix_of_prefix_length_le ⟨_, cut.symm⟩ ⟨rest, rfl⟩ (Nat.le_of_not_lt short)
      rw [List.append_assoc, List.append_cancel_left_eq] at cut
      obtain ⟨whole, left, unread, rfl, rfl, less⟩ := ih cut
      exact ⟨packet :: whole, left, unread, rfl, by rw [List.flatMap_cons, List.append_assoc], less⟩

/-- The bytes that are still to come are those of the packets that are not whole, without the part
that is there. -/
theorem Split.unread (split : Split packets bytes whole left)
    (cut : bytes ++ rest = packets.flatMap encode) :
    ∃ unread, packets = whole ++ unread ∧ left ++ rest = unread.flatMap encode ∧
      ∀ next ∈ unread.head?, left.length < next.encode.length := by
  obtain ⟨unread, rfl, rfl, less⟩ := split
  rw [List.append_assoc, List.flatMap_append, List.append_cancel_left_eq] at cut
  exact ⟨unread, rfl, cut, less⟩

/-- Of all bytes of several packets nothing is left. -/
theorem Split.eq_of_all (split : Split packets bytes whole left)
    (all : bytes = packets.flatMap encode) : whole = packets ∧ left = [] := by
  obtain ⟨unread, parts, behind, less⟩ := split.unread (List.append_nil bytes ▸ all)
  rw [List.append_nil] at behind
  cases unread with
  | nil => exact ⟨by rw [List.append_nil] at parts; exact parts.symm, behind⟩
  | cons next unread =>
    have less := less next rfl
    rw [behind, List.flatMap_cons, List.length_append] at less
    omega

/-- The first packets of a list take no more bytes than the whole list. -/
theorem length_flatMap_encode_le (beginning : whole <+: packets) :
    (whole.flatMap encode).length ≤ (packets.flatMap encode).length := by
  obtain ⟨unread, rfl⟩ := beginning
  rw [List.flatMap_append, List.length_append]
  exact Nat.le_add_right _ _

/-- The packets that are whole are those whose frames end within the bytes. -/
theorem Split.lt_length_iff (split : Split packets bytes whole left) {place : Nat}
    (listed : place < packets.length) :
    place < whole.length ↔ frameEnd packets place ≤ bytes.length := by
  obtain ⟨unread, rfl, rfl, less⟩ := split
  rw [List.length_append]
  constructor
  · intro early
    have taken : (whole ++ unread).take (place + 1) <+: whole := by
      rw [List.take_append_of_le_length early]
      exact List.take_prefix _ _
    exact (length_flatMap_encode_le taken).trans (Nat.le_add_right _ _)
  · intro ends
    by_contra late
    cases unread with
    | nil => exact late (by simpa using listed)
    | cons next unread =>
      have taken : whole ++ [next] <+: (whole ++ next :: unread).take (place + 1) := by
        rw [List.prefix_take_iff, List.length_append, List.length_singleton]
        exact ⟨⟨unread, by simp⟩, by omega⟩
      have least := length_flatMap_encode_le taken
      have less := less next rfl
      rw [List.flatMap_append, List.length_append, List.flatMap_singleton] at least
      unfold frameEnd at ends
      omega

end Packet

namespace PacketReader

/-! ## The limit -/

@[simp] theorem maxBody_drain (reader : PacketReader) :
    reader.drain.2.2.maxBody = reader.maxBody := by
  fun_induction drain reader with
  | case1 reader packet found packets fault rest drained ih =>
    rw [drained] at ih
    exact ih.trans reader.maxBody_next
  | case2 reader none => exact reader.maxBody_next
  | case3 reader fault found => exact reader.maxBody_next

/-! ## Buffers -/

/-- What a reader that is drained after each of several buffers makes of them.  After the first
fault nothing more is read. -/
def feed (reader : PacketReader) : List Bytes → List Packet × Option PacketError × PacketReader
  | [] => ([], none, reader)
  | buffer :: buffers =>
    match (reader.push buffer).drain with
    | (packets, some fault, after) => (packets, some fault, after)
    | (packets, none, after) => (packets ++ (after.feed buffers).1, (after.feed buffers).2)

variable {reader : PacketReader}

theorem feed_cons_of_faultless {buffer : Bytes}
    (faultless : (reader.push buffer).drain.2.1 = none) (buffers : List Bytes) :
    reader.feed (buffer :: buffers) =
      ((reader.push buffer).drain.1 ++ ((reader.push buffer).drain.2.2.feed buffers).1,
        ((reader.push buffer).drain.2.2.feed buffers).2) := by
  rw [feed]
  generalize (reader.push buffer).drain = drained at faultless
  obtain ⟨packets, fault, after⟩ := drained
  cases faultless
  rfl

theorem drain_of_feed_cons {buffer : Bytes} {buffers : List Bytes}
    (faultless : (reader.feed (buffer :: buffers)).2.1 = none) :
    (reader.push buffer).drain.2.1 = none := by
  rw [feed] at faultless
  generalize (reader.push buffer).drain = drained at faultless ⊢
  obtain ⟨packets, fault, after⟩ := drained
  cases fault with
  | none => rfl
  | some fault => cases faultless

/-- A reader that holds the first bytes of several packets reads just those that are whole. -/
theorem drain_split (reader : PacketReader) {packets : List Packet} {rest : Bytes}
    (fit : ∀ packet ∈ packets, packet.Fits reader.maxBody)
    (cut : reader.pending ++ rest = packets.flatMap Packet.encode) :
    Packet.Split packets reader.pending reader.drain.1 reader.drain.2.2.pending ∧
      reader.drain.2.1 = none := by
  obtain ⟨whole, left, split⟩ := Packet.exists_split packets cut
  obtain ⟨unread, parts, behind, less⟩ := split.unread cut
  have unfinished : left = [] ∨ ∃ further : Packet, ∃ missing, missing ≠ [] ∧
      left ++ missing = further.encode ∧ further.Fits reader.maxBody := by
    cases unread with
    | nil => exact .inl (List.append_eq_nil_iff.mp behind).1
    | cons next unread =>
      have less := less next rfl
      rw [List.flatMap_cons] at behind
      obtain ⟨missing, frame⟩ : left <+: next.encode :=
        List.prefix_of_prefix_length_le ⟨rest, rfl⟩ ⟨_, behind.symm⟩ (Nat.le_of_lt less)
      refine .inr ⟨next, missing, fun none => ?_, frame, fit next (by simp [parts])⟩
      rw [← frame, none, List.append_nil] at less
      exact Nat.lt_irrefl _ less
  have pending : reader.pending = whole.flatMap Packet.encode ++ left := by
    obtain ⟨_, _, same, _⟩ := split
    exact same
  obtain ⟨read, faultless, kept, _⟩ := drain_encode whole pending
    (fun packet listed => fit packet (parts ▸ List.mem_append_left _ listed)) unfinished
  rw [read, kept]
  exact ⟨split, faultless⟩

/-- A reader that holds a part of the next packet, and is given more bytes in buffers, reads just
the packets that are whole then. -/
theorem feed_split (reader : PacketReader) (buffers : List Bytes) {packets : List Packet}
    {rest : Bytes}
    (fit : ∀ packet ∈ packets, packet.Fits reader.maxBody)
    (cut : reader.pending ++ buffers.flatten ++ rest = packets.flatMap Packet.encode)
    (part : ∀ next ∈ packets.head?, reader.pending.length < next.encode.length) :
    Packet.Split packets (reader.pending ++ buffers.flatten) (reader.feed buffers).1
      (reader.feed buffers).2.2.pending ∧ (reader.feed buffers).2.1 = none := by
  induction buffers generalizing reader packets with
  | nil => exact ⟨⟨packets, rfl, List.append_nil _, part⟩, rfl⟩
  | cons buffer buffers ih =>
    have pushed : (reader.push buffer).pending ++ (buffers.flatten ++ rest) =
        packets.flatMap Packet.encode := by
      rw [pending_push, ← cut]
      simp
    obtain ⟨split, faultless⟩ := drain_split (reader.push buffer) fit pushed
    obtain ⟨unread, rfl, behind, less⟩ := split.unread pushed
    obtain ⟨⟨later, rfl, arrived, short⟩, quiet⟩ := ih (reader.push buffer).drain.2.2
      (fun packet listed => by simpa using fit packet (List.mem_append_right _ listed))
      (by rw [List.append_assoc, behind]) less
    rw [feed_cons_of_faultless faultless]
    refine ⟨⟨later, (List.append_assoc ..).symm, ?_, short⟩, quiet⟩
    obtain ⟨_, _, read, _⟩ := split
    rw [List.flatMap_append, List.append_assoc, ← arrived, ← List.append_assoc, ← read,
      pending_push, List.flatten_cons, List.append_assoc]

/-- A reader that holds the first bytes of several packets, and is given the rest of them in
buffers, reads these packets. -/
theorem feed_rest (reader : PacketReader) {packets : List Packet}
    (fit : ∀ packet ∈ packets, packet.Fits reader.maxBody)
    {buffers : List Bytes} (some : buffers ≠ [])
    (cut : reader.pending ++ buffers.flatten = packets.flatMap Packet.encode) :
    (reader.feed buffers).1 = packets ∧ (reader.feed buffers).2.1 = none ∧
      (reader.feed buffers).2.2.pending = [] := by
  obtain ⟨buffer, buffers, rfl⟩ := List.exists_cons_of_ne_nil some
  rw [List.flatten_cons, ← List.append_assoc, ← pending_push] at cut
  obtain ⟨split, faultless⟩ := drain_split (reader.push buffer) fit cut
  obtain ⟨unread, rfl, behind, less⟩ := split.unread cut
  obtain ⟨later, quiet⟩ := feed_split (reader.push buffer).drain.2.2 buffers
    (fun packet listed => by simpa using fit packet (List.mem_append_right _ listed))
    ((List.append_nil _).trans behind) less
  obtain ⟨read, nothing⟩ := later.eq_of_all behind
  rw [feed_cons_of_faultless faultless]
  exact ⟨congrArg _ read, quiet, nothing⟩

/-- A reader that holds nothing reads several packets back from their bytes. -/
theorem feed_all (reader : PacketReader) {packets : List Packet} (empty : reader.pending = [])
    (fit : ∀ packet ∈ packets, packet.Fits reader.maxBody) {buffers : List Bytes}
    (cut : buffers.flatten = packets.flatMap Packet.encode) :
    (reader.feed buffers).1 = packets ∧ (reader.feed buffers).2.1 = none ∧
      (reader.feed buffers).2.2.pending = [] := by
  have all : reader.pending ++ buffers.flatten = packets.flatMap Packet.encode := by
    rw [empty, List.nil_append, cut]
  obtain ⟨split, faultless⟩ := feed_split reader buffers fit ((List.append_nil _).trans all)
    fun next _ => empty ▸ next.length_encode_pos
  obtain ⟨read, nothing⟩ := split.eq_of_all all
  exact ⟨read, faultless, nothing⟩

/-- What has been read of several packets once some of their bytes have arrived: just the packets
whose frames end within these bytes.  The reader holds what is behind them. -/
structure HasRead (packets : List Packet) (bytes : Bytes) (read : List Packet)
    (reader : PacketReader) : Prop where
  beginning : read <+: packets
  whole : ∀ place < packets.length,
    place < read.length ↔ Packet.frameEnd packets place ≤ bytes.length
  held : bytes = read.flatMap Packet.encode ++ reader.pending

/-- **The packets come out as they were written, however their bytes are cut.**  When all buffers
have been pushed, all packets have been read and no byte is left; before that just those packets
have been read whose frames lie within the buffers so far. -/
theorem feed_encode {maxBody : Nat} {packets : List Packet}
    (fit : ∀ packet ∈ packets, packet.Fits maxBody) {buffers : List Bytes}
    (cut : buffers.flatten = packets.flatMap Packet.encode) :
    ((new maxBody).feed buffers).1 = packets ∧ ((new maxBody).feed buffers).2.1 = none ∧
      ((new maxBody).feed buffers).2.2.buffer.size = 0 ∧
      ∀ first, first <+: buffers → ((new maxBody).feed first).2.1 = none ∧
        HasRead packets first.flatten ((new maxBody).feed first).1
          ((new maxBody).feed first).2.2 := by
  have fit : ∀ packet ∈ packets, packet.Fits (new maxBody).maxBody := fun packet listed =>
    ⟨(fit packet listed).1.trans (Nat.le_max_left ..), (fit packet listed).2⟩
  obtain ⟨read, faultless, nothing⟩ := feed_all (new maxBody) rfl fit cut
  refine ⟨read, faultless, by rw [← ByteQueue.length_toBytes]; exact congrArg List.length nothing,
    ?_⟩
  rintro first ⟨rest, rfl⟩
  obtain ⟨split, quiet⟩ := feed_split (new maxBody) first fit
    (by rw [← cut, List.flatten_append]; rfl) fun next _ => next.length_encode_pos
  refine ⟨quiet, ?_, fun place listed => split.lt_length_iff listed, ?_⟩
  · obtain ⟨unread, rfl, _⟩ := split
    exact List.prefix_append _ _
  · obtain ⟨_, _, arrived, _⟩ := split
    exact arrived

/-- Packets of which three have a payload, the last one of a length that needs padding. -/
def several : List Packet :=
  [.sync [⟨.received, .ofNat 1⟩, ⟨.delivered, .ofNat 0xABCDEF⟩], .ackOfNack .zero,
    .nack (.ofNat 2) "né", .data (.ofNat 3) [1, 2, 3, 4, 5]]

/-- Their bytes in buffers that end within a length, a header and the padding, two of them empty. -/
def shreds : List Bytes :=
  let bytes := several.flatMap Packet.encode
  [[], bytes.take 2, (bytes.drop 2).take 5, [], (bytes.drop 7).take 31, bytes.drop 38]

/-- The packets of the shreds; four buffers bring none of them, and a fifth one the first three. -/
theorem feed_encode_shreds :
    (∀ packet ∈ several, packet.Fits 12) ∧ shreds.flatten = several.flatMap Packet.encode ∧
      ((new 12).feed shreds).1 = several ∧ ((new 12).feed (shreds.take 4)).1 = [] ∧
      2 < ((new 12).feed (shreds.take 5)).1.length := by
  have fit : ∀ packet ∈ several, packet.Fits 12 := by
    unfold Packet.Fits
    decide +kernel
  have cut : shreds.flatten = several.flatMap Packet.encode := by decide +kernel
  obtain ⟨read, _, _, early⟩ := feed_encode fit cut
  refine ⟨fit, cut, read, ?_, ?_⟩
  · have none := (early (shreds.take 4) (List.take_prefix _ _)).2.whole 0 (by decide)
    exact List.eq_nil_of_length_eq_zero (Nat.eq_zero_of_not_pos fun some =>
      absurd (none.mp some) (by decide +kernel))
  · exact ((early (shreds.take 5) (List.take_prefix _ _)).2.whole 2 (by decide)).mpr
      (by decide +kernel)

end PacketReader

end Courier
