import Courier.Proofs.Pipe.Course

/-!
# What holds of a course at every moment

As long as the ids suffice, the id of a message is its place among the accepted
messages, which is its ticket as well.  Three numbers then divide the messages
of a course: the first ones have a receipt, the next ones have arrived and wait
or are with the receiver, the others have not arrived.

`Course.Sound` collects what holds of the tables, of what was reported, of the
receiver, and of everything in flight, on the streams in use and on those given
up.  Its heart are three statements about a stream that the receiver may still
read, that is, one on which it has not gone ahead:

* `gapless`: no message on it stands before one that has not arrived either;
* `gone`: it brings no message that the receiver has already forgotten;
* `complete`: if it is the sender's stream and has lost nothing, then it brings
  every message that has not arrived.

`answered` is the same for the way back: on a stream that has lost nothing, a
message with a receipt has its final answer or its release in flight.

Losses on the way keep this, which is proved at the end.  That every change at the
sender keeps it is proved in `Courier.Proofs.Pipe.Sending`, and that every change at
the receiver does in `Courier.Proofs.Pipe.Receiving`.
-/

namespace Courier

set_option autoImplicit false

namespace Course

variable {course : Course}

/-- The sender has no final answer to a message. -/
def Holds (course : Course) (id : MessageId) : Prop := ∃ entry ∈ course.outbound, entry.id = id

/-- The receiver has not forgotten a message. -/
def Knows (course : Course) (id : MessageId) : Prop :=
  ∃ disposition, (id, disposition) ∈ course.inbound

/-- The receiver has attached no later stream, so that it may still read this one. -/
def Ahead (course : Course) (stream : StreamId) : Prop :=
  ∀ earlier ∈ course.receiverStreams, earlier ≤ stream

/-- How far the receipts say that the receiver has come with a message. -/
def standing (course : Course) (id : MessageId) : Disposition :=
  match course.receipts[id.toNat]? with
  | some receipt => .ofVerdict receipt.verdict
  | none => .received

/-- The receiver ended with a message in this way. -/
def Judged (course : Course) (id : MessageId) (verdict : Except String Unit) : Prop :=
  ∃ receipt, course.receipts[id.toNat]? = some receipt ∧ receipt.verdict = verdict

/-- What may be reported under a ticket. -/
def Told (course : Course) (ticket : Ticket) : Outcome → Prop
  | .ok _ => ∃ receipt, course.receipts[ticket]? = some receipt ∧ receipt.verdict = .ok ()
  | .error (.rejected id reason) =>
    id.toNat = ticket ∧
      ∃ receipt, course.receipts[ticket]? = some receipt ∧ receipt.verdict = .error reason
  | .error .closed => course.senderOpen = false
  | .error _ => False

/-! ## The invariant -/

/-- The sender's table. -/
structure Outbox (course : Course) : Prop where
  place : ∀ entry ∈ course.outbound,
    entry.ticket = entry.id.toNat ∧ entry.id.toNat < course.accepted.length
  ascending : course.outbound.Pairwise fun earlier later => earlier.id.toNat < later.id.toNat
  body : ∀ entry ∈ course.outbound, ∀ body, entry.body = some body →
    course.accepted[entry.id.toNat]? = some body
  /-- A body is dropped only after the message has arrived. -/
  freed : ∀ entry ∈ course.outbound, entry.body = none → entry.id.toNat < course.received
  /-- A message is given up only after it has a receipt. -/
  retired : course.senderOpen = true → ∀ id : MessageId, id.toNat < course.accepted.length →
    ¬ course.Holds id → id.toNat < course.receipts.length

/-- What those who wait were told. -/
structure Reporting (course : Course) : Prop where
  once : (course.reports.map Prod.fst).Nodup
  fresh : ∀ entry ∈ course.outbound, entry.ticket ∉ course.reports.map Prod.fst
  truthful : ∀ ticket outcome, (ticket, outcome) ∈ course.reports → course.Told ticket outcome
  sent : ∀ ticket ∈ course.reports.map Prod.fst, ticket < course.accepted.length
  /-- Who has not been told waits for a message without a final answer. -/
  accounted : ∀ ticket < course.accepted.length, ticket ∈ course.reports.map Prod.fst ∨
    ticket ∈ course.outbound.map fun entry => entry.ticket

/-- The receiver and what it knows. -/
structure Reception (course : Course) : Prop where
  /-- What was handed over and what waits are the first messages accepted. -/
  inOrder : course.handed ++ course.waiting.map Prod.snd = course.accepted.take course.received
  numbered : course.waiting.map (fun message => message.1.toNat) =
    List.range' course.handed.length course.waiting.length
  idle : course.busy = none → course.receipts.length = course.handed.length
  engaged : ∀ id, course.busy = some id →
    id.toNat = course.receipts.length ∧ course.receipts.length + 1 = course.handed.length
  known : ∀ id disposition, (id, disposition) ∈ course.inbound →
    id.toNat < course.received ∧ disposition = course.standing id
  held : course.receiverOpen = true → ∀ id : MessageId, course.receipts.length ≤ id.toNat →
    id.toNat < course.received → (id, Disposition.received) ∈ course.inbound
  emptied : course.receiverOpen = false → course.inbound = [] ∧ course.receiverStream = none
  newestReceiver : ∀ stream, course.receiverStream = some stream →
    stream ∈ course.receiverStreams ∧ course.Ahead stream

/-- What is in flight to the receiver. -/
structure Outward (course : Course) : Prop where
  carried : ∀ stream id body, Notice.data id body ∈ (course.forth stream).inFlight →
    course.accepted[id.toNat]? = some body
  released : ∀ stream id, Notice.release id ∈ (course.forth stream).inFlight →
    id.toNat < course.receipts.length ∧ ¬ course.Holds id
  /-- A message that is released is not sent again after that. -/
  final : ∀ stream, (course.forth stream).inFlight.Pairwise fun earlier later =>
    ∀ id body, earlier = .release id → later ≠ .data id body
  /-- Nor is it sent on a later stream. -/
  finalAcross : ∀ stream later id body, stream < later →
    Notice.release id ∈ (course.forth stream).inFlight →
    Notice.data id body ∉ (course.forth later).inFlight
  written : ∀ stream, stream ∉ course.senderStreams → (course.forth stream).inFlight = []
  newestSender : ∀ stream, course.senderStream = some stream →
    stream ∈ course.senderStreams ∧ ∀ earlier ∈ course.senderStreams, earlier ≤ stream
  shut : course.senderOpen = false → course.senderStream = none

/-- What a receiver that is open may still count on. -/
structure Continuous (course : Course) : Prop where
  gone : course.receiverOpen = true → ∀ id : MessageId, id.toNat < course.received →
    ¬ course.Knows id → ¬ course.Holds id ∧
      ∀ stream, course.Ahead stream → ∀ body, .data id body ∉ (course.forth stream).inFlight
  gapless : course.receiverOpen = true → ∀ stream, course.Ahead stream →
    ∀ before id body after, (course.forth stream).inFlight = before ++ .data id body :: after →
    ∀ missing : MessageId, course.received ≤ missing.toNat → missing.toNat < id.toNat →
    ∃ content, .data missing content ∈ before
  complete : course.receiverOpen = true → ∀ stream, course.senderStream = some stream →
    (course.forth stream).whole = true → course.Ahead stream →
    ∀ id : MessageId, course.received ≤ id.toNat → id.toNat < course.accepted.length →
    ∃ body, .data id body ∈ (course.forth stream).inFlight

/-- The sender hears everything that the receiver says on a stream, and whether it answers is seen
there as well: it has attached the stream just now, or will. -/
def Hearing (course : Course) (stream : StreamId) : Prop :=
  (∀ earlier ∈ course.senderStreams, earlier < stream) ∨
    (course.senderStream = some stream ∧ (course.forth stream).whole = true)

/-- What is in flight to the sender. -/
structure Homeward (course : Course) : Prop where
  stored : ∀ stream id, Answer.stored id ∈ (course.back stream).inFlight →
    id.toNat < course.received
  settled : ∀ stream id verdict, Answer.settled id verdict ∈ (course.back stream).inFlight →
    course.Judged id verdict
  answered : ∀ stream, course.receiverStream = some stream → (course.back stream).whole = true →
    course.Hearing stream → ∀ id : MessageId, id.toNat < course.receipts.length →
    course.Knows id →
    (∃ verdict, .settled id verdict ∈ (course.back stream).inFlight) ∨
      .release id ∈ (course.forth stream).inFlight

/-- What holds of a course at every moment. -/
structure Sound (course : Course) : Prop extends Outbox course, Reporting course, Reception course,
  Outward course, Continuous course, Homeward course

/-! ## The three numbers -/

/-- What was handed over is a first part of what was accepted; what waits follows it. -/
theorem Reception.handed_isPrefix (reception : course.Reception) :
    course.handed <+: course.accepted := by
  have front : course.handed <+: course.handed ++ course.waiting.map Prod.snd :=
    List.prefix_append _ _
  rw [reception.inOrder] at front
  exact front.trans (List.take_prefix _ _)

theorem Reception.received_le (reception : course.Reception) :
    course.received ≤ course.accepted.length := by
  have lengths := congrArg List.length reception.inOrder
  simp only [List.length_append, List.length_map, List.length_take] at lengths
  unfold received at lengths ⊢
  omega

theorem Reception.receipts_le (reception : course.Reception) :
    course.receipts.length ≤ course.handed.length := by
  cases busy : course.busy with
  | none => exact Nat.le_of_eq (reception.idle busy)
  | some id =>
    obtain ⟨_, next⟩ := reception.engaged id busy
    omega

theorem Reception.receipts_le_received (reception : course.Reception) :
    course.receipts.length ≤ course.received :=
  Nat.le_trans reception.receipts_le (Nat.le_add_right _ _)

theorem Reception.receipts_le_accepted (reception : course.Reception) :
    course.receipts.length ≤ course.accepted.length :=
  Nat.le_trans reception.receipts_le_received reception.received_le

/-- A message with a receipt was handed over as it was accepted. -/
theorem Reception.handed_of_receipt (reception : course.Reception) {place : Nat} {receipt : Receipt}
    (found : course.receipts[place]? = some receipt) :
    ∃ body, course.accepted[place]? = some body ∧ course.handed[place]? = some body := by
  have bound : place < course.handed.length :=
    Nat.lt_of_lt_of_le (List.getElem?_eq_some_iff.mp found).1 reception.receipts_le
  have same := List.getElem?_eq_getElem bound
  obtain ⟨rest, whole⟩ := reception.handed_isPrefix
  refine ⟨_, ?_, same⟩
  rw [← whole, List.getElem?_append_left bound, same]

/-! ## Tickets -/

theorem Outbox.tickets_nodup (outbox : course.Outbox) :
    (course.outbound.map fun entry => entry.ticket).Nodup := by
  refine List.pairwise_map.mpr (outbox.ascending.imp_of_mem ?_)
  intro earlier later first second order
  rw [(outbox.place earlier first).1, (outbox.place later second).1]
  exact Nat.ne_of_lt order

/-! ## The standing of a message -/

theorem standing_of_judged {id : MessageId} {verdict : Except String Unit}
    (judged : course.Judged id verdict) : course.standing id = .ofVerdict verdict := by
  obtain ⟨receipt, found, rfl⟩ := judged
  simp [standing, found]

/-- A message without a receipt counts as received. -/
theorem standing_of_le {id : MessageId} (later : course.receipts.length ≤ id.toNat) :
    course.standing id = .received := by
  simp [standing, List.getElem?_eq_none later]

theorem exists_judged {id : MessageId} (earlier : id.toNat < course.receipts.length) :
    ∃ verdict, course.Judged id verdict :=
  ⟨_, course.receipts[id.toNat], List.getElem?_eq_getElem earlier, rfl⟩

theorem Judged.lt {id : MessageId} {verdict : Except String Unit}
    (judged : course.Judged id verdict) : id.toNat < course.receipts.length := by
  obtain ⟨receipt, found, _⟩ := judged
  exact (List.getElem?_eq_some_iff.mp found).1

/-- What the receiver answers for a message that it knows is what the receipts say. -/
theorem Reception.toAnswer (reception : course.Reception) {id : MessageId}
    {disposition : Disposition} (known : (id, disposition) ∈ course.inbound) :
    disposition.toAnswer id = .stored id ∧ course.receipts.length ≤ id.toNat ∨
      ∃ verdict, disposition.toAnswer id = .settled id verdict ∧ course.Judged id verdict := by
  obtain ⟨_, rfl⟩ := reception.known id disposition known
  by_cases earlier : id.toNat < course.receipts.length
  · obtain ⟨verdict, judged⟩ := exists_judged earlier
    refine .inr ⟨verdict, ?_, judged⟩
    rw [standing_of_judged judged, Disposition.toAnswer_ofVerdict]
  · refine .inl ⟨?_, Nat.le_of_not_lt earlier⟩
    rw [standing_of_le (Nat.le_of_not_lt earlier)]
    rfl

/-! ## Less in flight -/

/-- Where less is in flight to the receiver, what was said of all that is in flight still holds. -/
theorem Outward.thin (outward : course.Outward) {forth : StreamId → Lane Notice}
    (fewer : ∀ stream, (forth stream).inFlight.Sublist (course.forth stream).inFlight) :
    Outward { course with forth } where
  carried stream id body inFlight := outward.carried stream id body ((fewer stream).subset inFlight)
  released stream id inFlight := outward.released stream id ((fewer stream).subset inFlight)
  final stream := (outward.final stream).sublist (fewer stream)
  finalAcross stream later id body order inFlight sent :=
    outward.finalAcross stream later id body order ((fewer stream).subset inFlight)
      ((fewer later).subset sent)
  written stream unknown := by
    have empty := fewer stream
    rw [outward.written stream unknown] at empty
    exact List.sublist_nil.mp empty
  newestSender := outward.newestSender
  shut := outward.shut

/-- Packets in flight to the receiver are lost. -/
theorem Sound.cutForth (sound : course.Sound) (stream : StreamId) {kept : List Notice}
    (shorter : kept <+: (course.forth stream).inFlight) : (course.cutForth stream kept).Sound := by
  have fewer := Lane.sublist_update ⟨kept, false⟩ shorter.sublist
  have outward := sound.toOutward.thin fewer
  refine { sound with toOutward := outward, toContinuous := ?_, toHomeward := ?_ }
  · constructor
    · intro isOpen id arrived unknown
      obtain ⟨retired, absent⟩ := sound.gone isOpen id arrived unknown
      exact ⟨retired, fun other ahead body inFlight =>
        absent other ahead body ((fewer other).subset inFlight)⟩
    · intro isOpen other ahead before id body after inFlight
      by_cases same : other = stream
      · subst same
        obtain ⟨lost, whole⟩ := shorter
        refine sound.gapless isOpen other ahead before id body (after ++ lost) ?_
        simp only [Course.cutForth, Function.update_self] at inFlight
        rw [← whole, inFlight]
        simp
      · simp only [Course.cutForth, ne_eq, same, not_false_eq_true, Function.update_of_ne]
          at inFlight
        exact sound.gapless isOpen other ahead before id body after inFlight
    · intro isOpen other attached whole ahead
      by_cases same : other = stream
      · subst same
        simp [Course.cutForth] at whole
      · simp only [Course.cutForth, ne_eq, same, not_false_eq_true, Function.update_of_ne]
          at whole ⊢
        exact sound.complete isOpen other attached whole ahead
  · refine { sound.toHomeward with answered := ?_ }
    intro other attached whole hearing id finished known
    by_cases same : other = stream
    · subst same
      -- Nothing was in flight on a stream that the sender has yet to attach.
      have later : ∀ earlier ∈ course.senderStreams, earlier < other := by
        rcases hearing with later | ⟨_, broken⟩
        · exact later
        · simp [Course.cutForth] at broken
      have empty := sound.written other fun attached => Nat.lt_irrefl _ (later _ attached)
      have answered := sound.answered other attached whole (.inl later) id finished known
      simp only [empty, List.not_mem_nil, or_false] at answered
      exact .inl answered
    · simp only [Course.cutForth, Course.Hearing, ne_eq, same, not_false_eq_true,
        Function.update_of_ne] at hearing ⊢
      exact sound.answered other attached whole hearing id finished known

/-- Packets in flight to the sender are lost. -/
theorem Sound.cutBack (sound : course.Sound) (stream : StreamId) {kept : List Answer}
    (shorter : kept <+: (course.back stream).inFlight) : (course.cutBack stream kept).Sound := by
  have fewer := Lane.sublist_update ⟨kept, false⟩ shorter.sublist
  refine { sound with toHomeward := ?_ }
  constructor
  · intro other id inFlight
    exact sound.stored other id ((fewer other).subset inFlight)
  · intro other id verdict inFlight
    exact sound.settled other id verdict ((fewer other).subset inFlight)
  · intro other attached whole hearing id finished known
    by_cases same : other = stream
    · subst same
      simp [Course.cutBack] at whole
    · simp only [Course.cutBack, ne_eq, same, not_false_eq_true, Function.update_of_ne] at whole ⊢
      exact sound.answered other attached whole hearing id finished known

end Course

end Courier
