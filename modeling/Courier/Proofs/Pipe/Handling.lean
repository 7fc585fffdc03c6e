import Courier.Proofs.Pipe.Course

/-!
# What handling packets does to the tables

An exchange handles packets; a course knows only what they say.  Here one is
expressed by the other: the outbound table, the outcomes and the releases that
are answered depend on the answers alone, the inbound table, the deliveries and
the answers that are given on the notices alone.  What an exchange says on a new
stream is likewise what the tables hold.
-/

namespace Courier

set_option autoImplicit false

/-! ## Several answers and notices in order -/

namespace Answer

/-- The outbound table after several answers. -/
def settleAll (outbound : List Outbound) (answers : List Answer) : List Outbound :=
  answers.foldl settle outbound

/-- What is reported because of several answers. -/
def reportsAll (outbound : List Outbound) : List Answer → List (Ticket × Outcome)
  | [] => []
  | answer :: answers => answer.reports outbound ++ reportsAll (answer.settle outbound) answers

theorem settleAll_append (outbound : List Outbound) (first second : List Answer) :
    settleAll outbound (first ++ second) = settleAll (settleAll outbound first) second :=
  List.foldl_append

theorem reportsAll_append (outbound : List Outbound) (first second : List Answer) :
    reportsAll outbound (first ++ second) =
      reportsAll outbound first ++ reportsAll (settleAll outbound first) second := by
  induction first generalizing outbound with
  | nil => rfl
  | cons answer first ih =>
    simp only [List.cons_append, reportsAll, ih, List.append_assoc]
    rfl

end Answer

namespace Notice

/-- The inbound table after several notices. -/
def noteAll (inbound : List (MessageId × Disposition)) (notices : List Notice) :
    List (MessageId × Disposition) := notices.foldl note inbound

/-- What several notices leave for the receiver. -/
def deliveriesAll (inbound : List (MessageId × Disposition)) :
    List Notice → List (MessageId × Bytes)
  | [] => []
  | notice :: notices => notice.deliveries inbound ++ deliveriesAll (notice.note inbound) notices

/-- What several notices are replied to with. -/
def repliesAll (inbound : List (MessageId × Disposition)) : List Notice → List Answer
  | [] => []
  | notice :: notices => notice.reply inbound ++ repliesAll (notice.note inbound) notices

theorem noteAll_append (inbound : List (MessageId × Disposition)) (first second : List Notice) :
    noteAll inbound (first ++ second) = noteAll (noteAll inbound first) second :=
  List.foldl_append

theorem deliveriesAll_append (inbound : List (MessageId × Disposition))
    (first second : List Notice) :
    deliveriesAll inbound (first ++ second) =
      deliveriesAll inbound first ++ deliveriesAll (noteAll inbound first) second := by
  induction first generalizing inbound with
  | nil => rfl
  | cons notice first ih =>
    simp only [List.cons_append, deliveriesAll, ih, List.append_assoc]
    rfl

theorem repliesAll_append (inbound : List (MessageId × Disposition)) (first second : List Notice) :
    repliesAll inbound (first ++ second) =
      repliesAll inbound first ++ repliesAll (noteAll inbound first) second := by
  induction first generalizing inbound with
  | nil => rfl
  | cons notice first ih =>
    simp only [List.cons_append, repliesAll, ih, List.append_assoc]
    rfl

end Notice

/-! ## What a disposition is answered with -/

namespace Disposition

theorem answers_answer (id : MessageId) (disposition : Disposition) :
    (disposition.answer id).answers = [disposition.toAnswer id] := by
  cases disposition <;> rfl

theorem notices_answer (id : MessageId) (disposition : Disposition) :
    (disposition.answer id).notices = [] := by
  cases disposition <;> rfl

end Disposition

/-! ## Packets -/

/-- What handling packets amounts to: how the tables change, and what is asked for. -/
structure Handled (before : Exchange) (notices : List Notice) (answers : List Answer)
    (reaction : Reaction) (after : Exchange) : Prop where
  nextId : after.nextId = before.nextId
  sent : after.sent = before.sent
  outbound : after.outbound = Answer.settleAll before.outbound answers
  outcomes : reaction.outcomes = Answer.reportsAll before.outbound answers
  released : reaction.answers.flatMap Packet.notices = answers.flatMap Answer.reply
  inbound : after.inbound = Notice.noteAll before.inbound notices
  deliveries : reaction.deliveries = Notice.deliveriesAll before.inbound notices
  answered : reaction.answers.flatMap Packet.answers = Notice.repliesAll before.inbound notices

namespace Handled

theorem nothing (exchange : Exchange) : Handled exchange [] [] .none exchange :=
  ⟨rfl, rfl, rfl, rfl, rfl, rfl, rfl, rfl⟩

/-- Two reactions, one after the other. -/
theorem trans {before middle after : Exchange} {notices notices' : List Notice}
    {answers answers' : List Answer} {first second : Reaction}
    (handled : Handled before notices answers first middle)
    (next : Handled middle notices' answers' second after) :
    Handled before (notices ++ notices') (answers ++ answers') (first ++ second) after where
  nextId := next.nextId.trans handled.nextId
  sent := next.sent.trans handled.sent
  outbound := by rw [next.outbound, handled.outbound, Answer.settleAll_append]
  outcomes := by
    rw [Reaction.outcomes_append, handled.outcomes, next.outcomes, handled.outbound,
      Answer.reportsAll_append]
  released := by
    rw [Reaction.answers_append, List.flatMap_append, handled.released, next.released,
      List.flatMap_append]
  inbound := by rw [next.inbound, handled.inbound, Notice.noteAll_append]
  deliveries := by
    rw [Reaction.deliveries_append, handled.deliveries, next.deliveries, handled.inbound,
      Notice.deliveriesAll_append]
  answered := by
    rw [Reaction.answers_append, List.flatMap_append, handled.answered, next.answered,
      handled.inbound, Notice.repliesAll_append]

end Handled

namespace Exchange

variable (exchange : Exchange)

theorem disposition?_eq_lookup? (id : MessageId) :
    exchange.disposition? id = lookup? exchange.inbound id := rfl

theorem onReceipt_handled (id : MessageId) :
    Handled exchange [] [.stored id] .none (exchange.onReceipt id) :=
  ⟨rfl, rfl, rfl, rfl, rfl, rfl, rfl, rfl⟩

theorem retire_handled (id : MessageId) (verdict : Except String Unit) :
    Handled exchange [] [.settled id verdict] (exchange.retire id (id.outcome verdict)).1
      (exchange.retire id (id.outcome verdict)).2 where
  nextId := rfl
  sent := rfl
  outbound := rfl
  outcomes := by simp [retire, Answer.reportsAll, Answer.reports]
  released := rfl
  inbound := rfl
  deliveries := rfl
  answered := rfl

theorem onAck_handled (ack : Ack) :
    Handled exchange [] [ack.toAnswer] (exchange.onAck ack).1 (exchange.onAck ack).2 := by
  obtain ⟨state, id⟩ := ack
  cases state with
  | received => exact exchange.onReceipt_handled id
  | delivered => exact exchange.retire_handled id (.ok ())

theorem onAcks_handled (acks : List Ack) :
    Handled exchange [] (acks.map Ack.toAnswer) (exchange.onAcks acks).1
      (exchange.onAcks acks).2 := by
  induction acks generalizing exchange with
  | nil => exact .nothing exchange
  | cons ack acks ih => exact (exchange.onAck_handled ack).trans (ih _)

theorem onData_handled (id : MessageId) (body : Bytes) :
    Handled exchange [.data id body] [] (exchange.onData id body).1
      (exchange.onData id body).2 := by
  unfold onData
  rw [disposition?_eq_lookup?]
  cases found : lookup? exchange.inbound id with
  | none =>
    refine ⟨rfl, rfl, rfl, rfl, rfl, ?_, ?_, ?_⟩
    · simp [Notice.noteAll, Notice.note, found]
    · simp [Notice.deliveriesAll, Notice.deliveries, found]
    · simp [Notice.repliesAll, Notice.reply, found, Packet.answers, Disposition.toAnswer]
  | some disposition =>
    refine ⟨rfl, rfl, rfl, rfl, ?_, ?_, ?_, ?_⟩
    · simp [Reaction.answer, disposition.notices_answer]
    · simp [Notice.noteAll, Notice.note, found]
    · simp [Notice.deliveriesAll, Notice.deliveries, found, Reaction.answer]
    · simp [Notice.repliesAll, Notice.reply, found, Reaction.answer, disposition.answers_answer]

theorem forget_handled (id : MessageId) :
    Handled exchange [.release id] [] .none (exchange.forget id) :=
  ⟨rfl, rfl, rfl, rfl, rfl, rfl, rfl, rfl⟩

/-- Handling a packet does what the packet says. -/
theorem handle_handled (packet : Packet) :
    Handled exchange packet.notices packet.answers (exchange.handle packet).1
      (exchange.handle packet).2 := by
  cases packet with
  | data id body => exact exchange.onData_handled id body
  | ackReceived id => exact exchange.onReceipt_handled id
  | ackDelivered id => exact exchange.retire_handled id (.ok ())
  | nack id reason => exact exchange.retire_handled id (.error reason)
  | ackOfNack id => exact exchange.forget_handled id
  | sync acks => exact exchange.onAcks_handled acks

/-- Handling several packets does what the packets say, in order. -/
theorem handleAll_handled (packets : List Packet) :
    Handled exchange (packets.flatMap Packet.notices) (packets.flatMap Packet.answers)
      (exchange.handleAll packets).1 (exchange.handleAll packets).2 := by
  induction packets generalizing exchange with
  | nil => exact .nothing exchange
  | cons packet packets ih => exact (exchange.handle_handled packet).trans (ih _)

/-! ## A new stream -/

theorem nacks_notices : exchange.nacks.flatMap Packet.notices = [] := by
  refine List.flatMap_eq_nil_iff.mpr fun packet listed => ?_
  obtain ⟨⟨id, disposition⟩, _, said⟩ := List.mem_filterMap.mp listed
  cases disposition <;> cases said
  rfl

theorem unconfirmed_notices :
    exchange.unconfirmed.flatMap Packet.notices =
      exchange.outbound.filterMap fun entry =>
        entry.body.map fun body => .data entry.id body := by
  unfold unconfirmed
  induction exchange.outbound with
  | nil => rfl
  | cons entry rest ih =>
    cases kept : entry.body with
    | none => simpa [kept] using ih
    | some body => simpa [kept, Packet.notices] using ih

/-- What is said on a new stream of the messages that this end has sent. -/
theorem resync_notices :
    exchange.resync.flatMap Packet.notices =
      exchange.outbound.filterMap fun entry =>
        entry.body.map fun body => .data entry.id body := by
  rw [resync, List.cons_append, List.flatMap_cons, List.flatMap_append, nacks_notices,
    unconfirmed_notices]
  rfl

theorem unconfirmed_answers : exchange.unconfirmed.flatMap Packet.answers = [] := by
  refine List.flatMap_eq_nil_iff.mpr fun packet listed => ?_
  obtain ⟨entry, _, said⟩ := List.mem_filterMap.mp listed
  obtain ⟨body, _, rfl⟩ := Option.map_eq_some_iff.mp said
  rfl

theorem mem_ascending (entry : MessageId × Disposition) :
    entry ∈ exchange.ascending ↔ entry ∈ exchange.inbound :=
  (List.mergeSort_perm ..).mem_iff

/-- On a new stream every message that this end has received is answered. -/
theorem mem_resync_answers (answer : Answer) :
    answer ∈ exchange.resync.flatMap Packet.answers ↔
      ∃ id disposition, (id, disposition) ∈ exchange.inbound ∧
        answer = disposition.toAnswer id := by
  rw [resync, List.cons_append, List.flatMap_cons, List.flatMap_append, unconfirmed_answers,
    List.append_nil, List.mem_append]
  simp only [Packet.answers, acks, nacks, List.mem_map, List.mem_flatMap, List.mem_filterMap,
    mem_ascending, Prod.exists]
  constructor
  · rintro (⟨ack, ⟨id, disposition, listed, said⟩, rfl⟩ |
      ⟨packet, ⟨id, disposition, listed, said⟩, there⟩)
    · refine ⟨id, disposition, listed, ?_⟩
      cases disposition <;> cases said <;> rfl
    · refine ⟨id, disposition, listed, ?_⟩
      cases disposition <;> cases said
      exact List.mem_singleton.mp there
  · rintro ⟨id, disposition, listed, rfl⟩
    cases disposition with
    | received => exact .inl ⟨_, ⟨id, .received, listed, rfl⟩, rfl⟩
    | delivered => exact .inl ⟨_, ⟨id, .delivered, listed, rfl⟩, rfl⟩
    | refused reason =>
      exact .inr ⟨_, ⟨id, .refused reason, listed, rfl⟩, List.mem_singleton_self _⟩

/-! ## The verdict of the receiver -/

/-- The verdict on a message that is with the receiver is put down and answered. -/
theorem conclude_of_received {id : MessageId} (verdict : Except String Unit)
    (received : exchange.disposition? id = some .received) :
    exchange.conclude id verdict =
      (some ((Disposition.ofVerdict verdict).answer id),
        exchange.setDisposition id (.ofVerdict verdict)) := by
  simp [conclude, received]

/-- A verdict on any other message is not put down. -/
theorem conclude_of_settled {id : MessageId} (verdict : Except String Unit)
    (settled : exchange.disposition? id ≠ some .received) :
    exchange.conclude id verdict = (none, exchange) := by
  unfold conclude
  split
  · exact absurd ‹_› settled
  · rfl

theorem conclude_counters (id : MessageId) (verdict : Except String Unit) :
    (exchange.conclude id verdict).2.sent = exchange.sent ∧
      (exchange.conclude id verdict).2.nextId = exchange.nextId := by
  unfold conclude
  split <;> exact ⟨rfl, rfl⟩

end Exchange

end Courier
