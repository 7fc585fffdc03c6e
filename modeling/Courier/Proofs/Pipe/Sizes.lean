import Courier.Proofs.Pipe.Alone
import Courier.Proofs.Wire.Limits

/-!
# How long the packets are that a pipe writes

A pipe takes no packet from its peer whose body is longer than its settings allow, and
its peer, with the same settings, takes none from it.  Nothing measures a packet before
it is written.  A body is as long as what the application sends, a refusal as the reason
that the receiver gives, and a sync has an entry for every message that has arrived and
has not been refused.

As long as all three are moderate (`PipeOperation.Moderate`), the peer reads back all
that is written, however the bytes are cut.  A packet that is too long is not read back;
the peer takes it for corruption and drops the stream.
-/

namespace Courier

set_option autoImplicit false

/-- The longest payload of a packet that a reader with these settings takes.  Four bytes of a body
are its kind and its id, and four bytes tell its length. -/
def PipeSettings.capacity (settings : PipeSettings) : Nat :=
  min (max settings.maxPacketBytes 4) 0xFFFFFFFF - 4

theorem Packet.fits_iff (packet : Packet) (settings : PipeSettings) :
    packet.Fits (max settings.maxPacketBytes 4) ↔
      packet.payloadBytes.length ≤ settings.capacity := by
  rw [Fits, length_body, PipeSettings.capacity]
  omega

/-! ## Tables -/

namespace Exchange

/-- No body and no reason in the tables is longer than a number of bytes. -/
structure Within (capacity : Nat) (exchange : Exchange) : Prop where
  bodies : ∀ entry ∈ exchange.outbound, ∀ body ∈ entry.body, body.length ≤ capacity
  reasons : ∀ entry ∈ exchange.inbound, ∀ reason, entry.2 = .refused reason →
    (Bytes.ofText reason).length ≤ capacity

variable {capacity : Nat} {exchange : Exchange}

theorem Within.enqueue (within : Within capacity exchange) {body : Bytes}
    (short : body.length ≤ capacity) {ticket : Ticket} {limit : Nat} {id : MessageId}
    {after : Exchange} (entered : exchange.enqueue body ticket limit = .ok (id, after)) :
    Within capacity after := by
  unfold Exchange.enqueue at entered
  split at entered <;> cases entered
  refine ⟨fun entry listed held known => ?_, within.reasons⟩
  rcases List.mem_append.mp listed with earlier | last
  · exact within.bodies entry earlier held known
  · cases List.mem_singleton.mp last
    cases known
    exact short

/-- The answer to a message is no longer than the reason for which it is refused. -/
theorem length_answer_le {disposition : Disposition} (id : MessageId)
    (short : ∀ reason, disposition = .refused reason → (Bytes.ofText reason).length ≤ capacity) :
    (disposition.answer id).payloadBytes.length ≤ capacity := by
  cases disposition with
  | received => exact Nat.zero_le _
  | delivered => exact Nat.zero_le _
  | refused reason => exact short reason rfl

theorem Within.disposition (within : Within capacity exchange) {id : MessageId}
    {disposition : Disposition} (known : exchange.disposition? id = some disposition) :
    ∀ reason, disposition = .refused reason → (Bytes.ofText reason).length ≤ capacity := by
  obtain ⟨entry, found, rfl⟩ := Option.map_eq_some_iff.mp known
  exact within.reasons entry (List.mem_of_find?_eq_some found)

/-- What holds of the answers and the tables after packets are handled. -/
def Keeps (capacity : Nat) (handled : Reaction × Exchange) : Prop :=
  (∀ answer ∈ handled.1.answers, answer.payloadBytes.length ≤ capacity) ∧
    Within capacity handled.2

theorem Keeps.append {first : Reaction} {after : Exchange} {second : Reaction × Exchange}
    (left : Keeps capacity (first, after)) (right : Keeps capacity second) :
    Keeps capacity (first ++ second.1, second.2) :=
  ⟨fun answer listed => (List.mem_append.mp listed).elim (left.1 answer) (right.1 answer), right.2⟩

theorem Within.onData (within : Within capacity exchange) (id : MessageId) (payload : Bytes) :
    Keeps capacity (exchange.onData id payload) := by
  unfold Exchange.onData
  split
  · refine ⟨by simp [Packet.payloadBytes], within.bodies, fun entry listed reason refused => ?_⟩
    rcases List.mem_append.mp listed with earlier | last
    · exact within.reasons entry earlier reason refused
    · cases List.mem_singleton.mp last
      cases refused
  · rename_i disposition known
    refine ⟨fun answer listed => ?_, within⟩
    cases List.mem_singleton.mp listed
    exact length_answer_le id (within.disposition known)

theorem Within.onReceipt (within : Within capacity exchange) (id : MessageId) :
    Within capacity (exchange.onReceipt id) := by
  refine ⟨fun entry listed held known => ?_, within.reasons⟩
  obtain ⟨earlier, place, rfl⟩ := List.mem_map.mp listed
  split at known
  · cases known
  · exact within.bodies earlier place held known

theorem Within.retire (within : Within capacity exchange) (id : MessageId) (outcome : Outcome) :
    Keeps capacity (exchange.retire id outcome) :=
  ⟨by simp [Exchange.retire, Packet.payloadBytes],
    fun entry listed => within.bodies entry (List.mem_of_mem_filter listed), within.reasons⟩

theorem Within.forget (within : Within capacity exchange) (id : MessageId) :
    Within capacity (exchange.forget id) :=
  ⟨within.bodies, fun entry listed => within.reasons entry (List.mem_of_mem_filter listed)⟩

/-- What changes only the tables brings no answer. -/
theorem Within.keeps (within : Within capacity exchange) :
    Keeps capacity (Reaction.none, exchange) :=
  ⟨by simp [Reaction.none], within⟩

theorem Within.onAcks (within : Within capacity exchange) (acks : List Ack) :
    Keeps capacity (exchange.onAcks acks) := by
  induction acks generalizing exchange with
  | nil => exact within.keeps
  | cons ack acks ih =>
    have first : Keeps capacity (exchange.onAck ack) := by
      unfold Exchange.onAck
      split
      · exact (within.onReceipt ack.id).keeps
      · exact within.retire ack.id (.ok ())
    exact first.append (ih first.2)

theorem Within.handle (within : Within capacity exchange) (packet : Packet) :
    Keeps capacity (exchange.handle packet) := by
  cases packet with
  | data id payload => exact within.onData id payload
  | ackReceived id => exact (within.onReceipt id).keeps
  | ackDelivered id => exact within.retire id (.ok ())
  | nack id reason => exact within.retire id (.error (.rejected id reason))
  | ackOfNack id => exact (within.forget id).keeps
  | sync acks => exact within.onAcks acks

theorem Within.handleAll (within : Within capacity exchange) (packets : List Packet) :
    Keeps capacity (exchange.handleAll packets) := by
  induction packets generalizing exchange with
  | nil => exact within.keeps
  | cons packet packets ih => exact (within.handle packet).append (ih (within.handle packet).2)

/-- The receiver gives a reason that is not too long, or none. -/
theorem Within.conclude (within : Within capacity exchange) (id : MessageId)
    {verdict : Except String Unit}
    (short : ∀ reason, verdict = .error reason → (Bytes.ofText reason).length ≤ capacity) :
    (∀ answer ∈ (exchange.conclude id verdict).1, answer.payloadBytes.length ≤ capacity) ∧
      Within capacity (exchange.conclude id verdict).2 := by
  unfold Exchange.conclude
  split
  · have given : ∀ reason, Disposition.ofVerdict verdict = .refused reason →
        (Bytes.ofText reason).length ≤ capacity := by
      cases verdict with
      | ok _ => rintro _ ⟨⟩
      | error reason => rintro _ ⟨⟩; exact short _ rfl
    refine ⟨?_, within.bodies, fun entry listed => ?_⟩
    · rintro _ ⟨⟩
      exact length_answer_le id given
    · obtain ⟨earlier, place, rfl⟩ := List.mem_map.mp listed
      split
      · exact given
      · exact within.reasons earlier place
  · exact ⟨by simp, within⟩

/-- What is said on a new stream is no longer than the bodies and the reasons, except for the
sync. -/
theorem Within.resync (within : Within capacity exchange)
    (short : 4 * exchange.acks.length ≤ capacity) :
    ∀ packet ∈ exchange.resync, packet.payloadBytes.length ≤ capacity := by
  intro packet listed
  rcases List.mem_append.mp listed with early | unconfirmed
  · rcases List.mem_cons.mp early with rfl | refused
    · exact (Packet.length_flatMap_ackBytes _).trans_le short
    · obtain ⟨entry, known, said⟩ := List.mem_filterMap.mp refused
      obtain ⟨id, disposition⟩ := entry
      have known := within.reasons _ (List.mem_mergeSort.mp known)
      cases disposition with
      | received => cases said
      | delivered => cases said
      | refused reason => cases said; exact known reason rfl
  · obtain ⟨entry, known, said⟩ := List.mem_filterMap.mp unconfirmed
    obtain ⟨body, held, rfl⟩ := Option.map_eq_some_iff.mp said
    exact within.bodies entry known body held

theorem Within.abandon (exchange : Exchange) : Within capacity exchange.abandon.2 :=
  ⟨by simp [Exchange.abandon], by simp [Exchange.abandon]⟩

end Exchange

/-! ## Operations -/

/-- The application sends no body, and gives no reason, that is longer than a number of bytes. -/
def PipeOperation.Moderate (capacity : Nat) : PipeOperation → Prop
  | .send body _ => body.length ≤ capacity
  | .conclude _ (.error reason) => (Bytes.ofText reason).length ≤ capacity
  | _ => True

namespace Pipe

variable {pipe : Pipe} {capacity : Nat}

/-- What a pipe writes is what it was given to write. -/
theorem mem_written_write {packets : List Packet} {packet : Packet}
    (listed : packet ∈ (pipe.write packets).flatMap PipeEffect.written) : packet ∈ packets := by
  unfold write at listed
  split at listed
  · simpa [PipeEffect.written] using listed
  · cases listed

theorem mem_written_reply {generation : Nat} {packets : List Packet} {packet : Packet}
    (listed : packet ∈ (pipe.reply generation packets).flatMap PipeEffect.written) :
    packet ∈ packets := by
  unfold reply at listed
  split at listed
  · cases listed
  · split at listed
    · exact mem_written_write listed
    · cases listed

@[simp] theorem written_reports (outcomes : List (Ticket × Outcome)) :
    (outcomes.map fun entry => PipeEffect.report entry.1 entry.2).flatMap PipeEffect.written =
      [] := by
  simp [List.flatMap_map, PipeEffect.written]

@[simp] theorem written_shut (attached : Option Attachment) :
    (attached.map fun attachment => PipeEffect.shut attachment.stream).toList.flatMap
      PipeEffect.written = [] := by
  cases attached <;> rfl

/-- Of what is done for bytes, only the answers are written. -/
theorem mem_written_accept {generation : Nat} {bytes : Bytes} {packet : Packet}
    (listed : packet ∈ (pipe.accept generation bytes).2.flatMap PipeEffect.written) :
    packet ∈ (pipe.exchange.handleAll (pipe.reader.push bytes).drain.1).1.answers := by
  unfold accept at listed
  split at listed
  · cases listed
  · simp only [List.flatMap_append, written_reports, List.nil_append, List.mem_append] at listed
    rcases listed with (woken | answered) | dropped
    · split at woken <;> cases woken
    · exact mem_written_reply answered
    · unfold corruption at dropped
      split at dropped <;> cases dropped

/-- What holds of the packets that are written and of the tables after an operation. -/
def Stays (capacity : Nat) (done : Pipe × List PipeEffect) : Prop :=
  (∀ packet ∈ done.2.flatMap PipeEffect.written, packet.payloadBytes.length ≤ capacity) ∧
    done.1.exchange.Within capacity

namespace Stays

variable (within : pipe.exchange.Within capacity)

include within

/-- An operation that writes nothing and leaves the tables alone. -/
theorem idle {done : Pipe × List PipeEffect} (same : done.1.exchange = pipe.exchange)
    (silent : done.2.flatMap PipeEffect.written = []) : Stays capacity done :=
  ⟨by simp [silent], same ▸ within⟩

theorem send {body : Bytes} (short : body.length ≤ capacity) (ticket : Ticket) :
    Stays capacity (pipe.operate (.send body ticket)) := by
  simp only [Pipe.operate, Pipe.send]
  split
  · exact idle within rfl rfl
  split
  · exact idle within rfl rfl
  · rename_i id exchange entered
    refine ⟨fun packet listed => ?_, within.enqueue short entered⟩
    cases List.mem_singleton.mp (mem_written_write listed)
    exact short

theorem bind : Stays capacity (pipe.operate .bind) := by
  refine idle within ?_ rfl
  simp only [Pipe.operate, Pipe.bind]
  split
  · rename_i bound done
    split at done
    · cases done
    split at done <;> cases done
    rfl
  · rfl

theorem take : Stays capacity (pipe.operate .take) := by
  refine idle within ?_ rfl
  simp only [Pipe.operate, takeWaiting]
  split
  · rename_i message after taken
    split at taken <;> cases taken
    rfl
  · rfl

theorem conclude (id : MessageId) {verdict : Except String Unit}
    (short : ∀ reason, verdict = .error reason → (Bytes.ofText reason).length ≤ capacity) :
    Stays capacity (pipe.operate (.conclude id verdict)) := by
  obtain ⟨answers, concluded⟩ := within.conclude id short
  simp only [Pipe.operate, Pipe.conclude]
  split
  · exact idle within rfl rfl
  split
  · rename_i answer exchange done
    rw [done] at answers concluded
    refine ⟨fun packet listed => ?_, concluded⟩
    cases List.mem_singleton.mp (mem_written_write listed)
    exact answers answer rfl
  · rename_i exchange done
    rw [done] at concluded
    exact ⟨by simp, concluded⟩

theorem accept (generation : Nat) (bytes : Bytes) :
    Stays capacity (pipe.operate (.accept generation bytes)) := by
  have handled := within.handleAll (pipe.reader.push bytes).drain.1
  refine ⟨fun packet listed => handled.1 packet (mem_written_accept listed), ?_⟩
  simp only [Pipe.operate, Pipe.accept]
  split
  · exact within
  · exact handled.2

theorem attach (stream : StreamId) (few : 4 * pipe.exchange.acks.length ≤ capacity) :
    Stays capacity (pipe.operate (.attach stream)) := by
  simp only [Pipe.operate, install]
  split
  · rename_i after effects packets installed
    split at installed <;> cases installed
    refine ⟨fun packet listed => within.resync few packet ?_, within⟩
    simpa [PipeEffect.written] using listed
  · exact idle within rfl rfl

theorem attachInVain (stream : StreamId) :
    Stays capacity (pipe.operate (.attachInVain stream)) := by
  simp only [Pipe.operate, install]
  split
  · rename_i after effects packets installed
    split at installed <;> cases installed
    simp only [uninstall, if_true]
    exact idle within rfl (written_shut pipe.attached)
  · exact idle within rfl rfl

theorem lose (generation : Nat) (cause : Option StreamError) :
    Stays capacity (pipe.operate (.lose generation cause)) := by
  simp only [Pipe.operate, Pipe.lose]
  split
  · exact idle within rfl rfl
  split
  · refine idle within rfl ?_
    split <;> rfl
  · exact idle within rfl rfl

theorem close : Stays capacity (pipe.operate .close) := by
  simp only [Pipe.operate, Pipe.close]
  split
  · exact idle within rfl rfl
  · refine ⟨?_, Exchange.Within.abandon pipe.exchange⟩
    cases pipe.reception <;> simp [PipeEffect.written]

theorem operate {operation : PipeOperation} (moderate : operation.Moderate capacity)
    (arrived : ∀ stream, operation = .attach stream → 4 * pipe.exchange.acks.length ≤ capacity) :
    Stays capacity (pipe.operate operation) := by
  cases operation with
  | send body ticket => exact send within moderate ticket
  | bind => exact bind within
  | take => exact take within
  | conclude id verdict =>
    refine conclude within id fun reason refused => ?_
    cases refused
    exact moderate
  | accept generation bytes => exact accept within generation bytes
  | attach stream => exact attach within stream (arrived stream rfl)
  | attachInVain stream => exact attachInVain within stream
  | lose generation cause => exact lose within generation cause
  | close => exact close within

end Stays

/-- The operations are moderate, and whenever a stream is attached, few enough messages have arrived
that have not been refused. -/
structure Moderate (pipe : Pipe) (operations : List PipeOperation) (capacity : Nat) : Prop where
  given : ∀ operation ∈ operations, operation.Moderate capacity
  arrived : ∀ before stream, before ++ [.attach stream] <+: operations →
    4 * (pipe.operateAll before).1.exchange.acks.length ≤ capacity

theorem Moderate.operateAll (within : pipe.exchange.Within capacity)
    {operations : List PipeOperation} (moderate : Moderate pipe operations capacity) :
    Stays capacity (pipe.operateAll operations) := by
  induction operations generalizing pipe with
  | nil => exact ⟨by simp [Pipe.operateAll], within⟩
  | cons operation operations ih =>
    obtain ⟨first, later⟩ := List.forall_mem_cons.mp moderate.given
    have done : Stays capacity (pipe.operate operation) :=
      Stays.operate within first fun stream same =>
        moderate.arrived [] stream (by rw [same]; exact ⟨operations, rfl⟩)
    have rest := ih done.2 ⟨later, fun before stream beginning =>
      moderate.arrived (operation :: before) stream (List.cons_prefix_cons.mpr ⟨rfl, beginning⟩)⟩
    refine ⟨fun packet listed => ?_, rest.2⟩
    rcases List.mem_append.mp (List.flatMap_append ▸ listed) with early | late
    · exact done.1 packet early
    · exact rest.1 packet late

/-- **The peer reads back what a pipe writes, if it is moderate.**  Of packets that have been
written, in whatever order and with whatever cut of their bytes, a reader with the same settings
reads all if and only if no payload is longer than the settings allow.  It is so if the bodies that
are sent and the reasons for which messages are refused are moderate, and few enough messages have
arrived whenever a stream is attached. -/
theorem readsBack_written (given : PipeSettings) (operations : List PipeOperation)
    {packets : List Packet} (written : ∀ packet ∈ packets,
      packet ∈ ((new given).operateAll operations).2.flatMap PipeEffect.written)
    {buffers : List Bytes} (cut : buffers.flatten = packets.flatMap Packet.encode) :
    let read := (PacketReader.new given.maxPacketBytes).feed buffers
    (read.1 = packets ∧ read.2.1 = none ∧ read.2.2.pending = [] ↔
        ∀ packet ∈ packets, packet.payloadBytes.length ≤ given.capacity) ∧
      (Moderate (new given) operations given.capacity →
        read.1 = packets ∧ read.2.1 = none ∧ read.2.2.pending = []) := by
  have readsBack : _ ↔ ∀ packet ∈ packets, packet.payloadBytes.length ≤ given.capacity :=
    (PacketReader.readsBack_iff (.new given.maxPacketBytes) rfl cut).trans
      (forall₂_congr fun packet _ => packet.fits_iff given)
  exact ⟨readsBack, fun moderate => readsBack.mpr fun packet listed =>
    (moderate.operateAll ⟨by simp [new, Exchange.new], by simp [new, Exchange.new]⟩).1 packet
      (written packet listed)⟩

/-- Settings that leave four bytes for a payload. -/
def narrow : PipeSettings := ⟨4096, 8, true⟩

/-- A message is sent, and one arrives that is refused. -/
def sparing : List PipeOperation :=
  [.attach 0, .send [1, 2, 3, 4] 0, .accept 1 (Packet.data .zero [7]).encode,
    .conclude .zero (.error "né.")]

/-- All that is written then is read back, although two of the packets are as long as can be. -/
theorem readsBack_written_sparing :
    let packets := ((new narrow).operateAll sparing).2.flatMap PipeEffect.written
    let bytes := packets.flatMap Packet.encode
    packets.length = 4 ∧ ((new narrow).operateAll sparing).1.inboundPending = 1 ∧
      ((PacketReader.new 8).feed [bytes.take 11, bytes.drop 11]).1 = packets := by
  intro packets bytes
  refine ⟨by decide +kernel, by decide +kernel, ?_⟩
  have moderate : Moderate (new narrow) sparing narrow.capacity := by
    refine ⟨?_, ?_⟩
    · have body : [1, 2, 3, 4].length ≤ narrow.capacity := by decide
      have reason : (Bytes.ofText "né.").length ≤ narrow.capacity := by decide +kernel
      simpa [sparing, PipeOperation.Moderate] using ⟨body, reason⟩
    · rintro before stream ⟨rest, whole⟩
      rcases before with _ | ⟨_, _ | ⟨_, _ | ⟨_, _ | ⟨_, before⟩⟩⟩⟩ <;> simp [sparing] at whole
      decide +kernel
  have cut : [bytes.take 11, bytes.drop 11].flatten = packets.flatMap Packet.encode := by
    simp [bytes]
  exact ((readsBack_written narrow sparing (fun _ listed => listed) cut).2 moderate).1

/-- A message that is a byte too long is sent, and the stream is replaced. -/
def excessive : List PipeOperation := [.attach 0, .send [1, 2, 3, 4, 5] 0, .lose 1 none, .attach 1]

/-- The message is accepted and written on both streams, and on neither of them can it be read. -/
theorem excessive_unreadable :
    let packets : List Packet := [.sync [], .data .zero [1, 2, 3, 4, 5]]
    ((after narrow [.attach 0]).send [1, 2, 3, 4, 5] 0).1 = .ok .zero ∧
      ((new narrow).operateAll excessive).2.flatMap PipeEffect.written = packets ++ packets ∧
      ((PacketReader.new narrow.maxPacketBytes).feed [packets.flatMap Packet.encode]).2.1 =
        some (.badLength 9 8) := by
  decide +kernel

end Pipe

end Courier
