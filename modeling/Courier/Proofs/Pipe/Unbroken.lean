import Courier.Proofs.Pipe.Lossless

/-!
# Pairs on a stream that loses nothing

Two pipes that are never closed send messages over one stream, which each of them
attaches when it likes and which loses nothing.  Here the courses of such a pair stay
steady from one operation to the next, however many messages are sent.  So a sender
is told, in the order in which it sent, what the receiver did with each message, and
once nothing is in flight and nothing is worked on it has been told of all of them.
-/

namespace Courier

set_option autoImplicit false

namespace Course

variable {course : Course} {stream : StreamId} {ids : List MessageId} {released : Nat}

/-- The sender hears several answers. -/
theorem Steady.hearAll (steady : course.Steady stream ids released)
    (attached : course.senderStreams ≠ []) (answers rest : List Answer)
    (front : (course.back stream).inFlight = answers ++ rest) :
    (answers.foldl (Course.hear stream) course).Steady stream ids released := by
  induction answers generalizing course with
  | nil => exact steady
  | cons answer answers ih =>
    refine ih (steady.hear front attached) attached ?_
    simp [Course.hear, Lane.pop, front]

/-- The receiver sees several notices. -/
theorem Steady.seeAll (steady : course.Steady stream ids released)
    (attached : course.receiverStream = some stream) (notices rest : List Notice)
    (front : (course.forth stream).inFlight = notices ++ rest) :
    ∃ forgotten, (notices.foldl (Course.see stream) course).Steady stream ids forgotten := by
  induction notices generalizing course released with
  | nil => exact ⟨released, steady⟩
  | cons notice notices ih =>
    obtain ⟨_, seen⟩ := steady.see front attached
    refine ih seen attached ?_
    simp [Course.see, Lane.pop, front]

end Course

namespace Pair

variable {pair : Pair} {stream : StreamId}

/-- What holds of a pair as long as nothing is lost and no pipe is closed. -/
structure Steady (pair : Pair) (stream : StreamId) : Prop where
  course : ∀ side, ∃ ids released, (pair.course side).Steady stream ids released
  regular : ∀ side, (pair.party side).Regular

theorem Steady.becomes (steady : pair.Steady stream) {side : Side} {after : Pair} {party : Party}
    {sending receiving : Course} (becomes : pair.Becomes side after party sending receiving)
    (sent : ∃ ids released, sending.Steady stream ids released)
    (received : ∃ ids released, receiving.Steady stream ids released) (regular : party.Regular) :
    after.Steady stream where
  course subject := by
    rcases side.eq_or_eq_other subject with rfl | rfl
    · exact becomes.sending ▸ sent
    · exact becomes.receiving ▸ received
  regular subject := by
    rcases side.eq_or_eq_other subject with rfl | rfl
    · exact becomes.own ▸ regular
    · exact becomes.peer ▸ steady.regular side.other

theorem Steady.isOpen (steady : pair.Steady stream) (side : Side) :
    (pair.party side).pipe.closed = false := by
  obtain ⟨_, _, course⟩ := steady.course side
  simpa [Pair.course] using course.senderOpen

/-! ## The operations -/

/-- Two new pipes. -/
theorem Steady.new (settings : Side → PipeSettings) (stream : StreamId) :
    (Pair.new settings).Steady stream where
  course side :=
    ⟨[], 0,
      { senderOpen := rfl
        receiverOpen := rfl
        forthWhole := rfl
        backWhole := rfl
        named := rfl
        inOrder := rfl
        numbered := rfl
        idle := fun _ => rfl
        engaged := fun _ busy => by cases busy
        listed := rfl
        told := List.prefix_rfl
        settled := rfl
        fresh := .nil
        known := rfl
        distinct := .nil
        releases := rfl
        order := .nil
        released_le := Nat.le_refl 0
        sending := .inl ⟨rfl, rfl, rfl, rfl, rfl⟩
        receiving := .inl ⟨rfl, rfl, rfl⟩ }⟩
  regular side :=
    { generation := rfl
      attached := fun _ attached => by cases attached
      sent := rfl
      ascending := .nil }

theorem Steady.bind (steady : pair.Steady stream) (side : Side) :
    (pair.bind side).Steady stream := by
  rcases bind_cases pair side with same | bound
  · rw [same]
    exact steady
  · exact steady.becomes bound (steady.course side) (steady.course side.other)
      { steady.regular side with }

theorem Steady.send (steady : pair.Steady stream) (side : Side) (body : Bytes) :
    (pair.send side body).Steady stream := by
  have regular := steady.regular side
  rcases send_cases pair side body regular.sent with
    ⟨_, _, _, same⟩ | ⟨_, _, _, _, room, entered⟩
  · rw [same]
    exact steady
  · obtain ⟨ids, released, course⟩ := steady.course side
    -- The limit is far below the number of ids.
    have few : (pair.party side).pipe.exchange.busyIds.length < 0x1000000 := by
      have limit := (pair.party side).pipe.settings.inFlightLimit_le
      simp only [Exchange.busyIds, List.length_map, PipeSettings.inFlightCeiling] at limit ⊢
      omega
    refine steady.becomes entered ⟨_, released, course.enter body ?_⟩ (steady.course side.other)
      (regular.entering body)
    exact MessageId.firstFree_not_mem few _

theorem Steady.attach (steady : pair.Steady stream) (side : Side)
    (first : (pair.party side).streams = []) : (pair.attach side stream).Steady stream := by
  rcases attach_cases pair side stream with same | ⟨isOpen, attached⟩
  · rw [same]
    exact steady
  · obtain ⟨ids, released, course⟩ := steady.course side
    obtain ⟨otherIds, otherReleased, other⟩ := steady.course side.other
    have regular := steady.regular side
    have unattached : (pair.course side.other).receiverStream ≠ some stream := by
      intro inUse
      obtain ⟨attachment, found, _⟩ : ∃ attachment,
          (pair.party side).pipe.attached = some attachment ∧
          attachment.stream = stream := by
        simpa [Pair.course, Pipe.stream?] using inUse
      have last := (regular.attached attachment found).2
      rw [first] at last
      cases last
    have unknown : (pair.party side).pipe.exchange.inbound = [] := by
      simpa [Pair.course] using other.inbound_eq_nil unattached
    have silent : (pair.party side).pipe.exchange.resync.flatMap Packet.answers = [] := by
      refine List.eq_nil_iff_forall_not_mem.mpr fun answer said => ?_
      obtain ⟨_, _, listed, _⟩ :=
        ((pair.party side).pipe.exchange.mem_resync_answers answer).mp said
      rw [unknown] at listed
      cases listed
    rw [silent] at attached
    exact steady.becomes attached ⟨ids, released, course.senderAttach first⟩
      ⟨otherIds, otherReleased, other.receiverAttach⟩
      (regular.attaching fun earlier listed => by rw [first] at listed; cases listed)

theorem Steady.hand (steady : pair.Steady stream) (side : Side)
    (idle : (pair.party side).busy = none) : (pair.hand side).Steady stream := by
  rcases hand_cases pair side with ⟨_, same⟩ | ⟨id, body, rest, waiting, handed⟩
  · rw [same]
    exact steady
  · obtain ⟨ids, released, course⟩ := steady.course side.other
    refine steady.becomes handed (steady.course side) ⟨ids, released, ?_⟩
      { steady.regular side with }
    exact course.hand (by simpa [Pair.course] using idle) (by simpa [Pair.course] using waiting)

/-- The message that the receiver is at counts as received. -/
theorem Steady.disposition?_busy (steady : pair.Steady stream) {side : Side} {id : MessageId}
    (busy : (pair.party side).busy = some id) :
    (pair.party side).pipe.exchange.disposition? id = some .received := by
  obtain ⟨_, _, course⟩ := steady.course side.other
  rw [Exchange.disposition?_eq_lookup?]
  have busy' : (pair.course side.other).busy = some id := by simpa [Pair.course] using busy
  simpa [Pair.course] using course.lookup?_busy busy'

theorem Steady.conclude (steady : pair.Steady stream) (side : Side) (receipt : Receipt) :
    (pair.conclude side receipt).Steady stream := by
  cases busy : (pair.party side).busy with
  | none =>
    unfold Pair.conclude
    simpa only [busy] using steady
  | some id =>
    obtain ⟨ids, released, course⟩ := steady.course side.other
    refine steady.becomes (conclude_open pair side receipt busy (steady.isOpen side)
      (steady.disposition?_busy busy)) (steady.course side)
      ⟨ids, released, ?_⟩ ((steady.regular side).concluding id receipt)
    exact course.conclude (by simpa [Pair.course] using busy) receipt

/-- What arriving packets make of a pair in which nothing is lost. -/
theorem Steady.arrive_becomes (steady : pair.Steady stream) {side : Side} {bytes : Bytes}
    {packets rest : List Packet}
    (inFlight : (pair.lane stream side.other).inFlight = packets ++ rest)
    (read : (pair.party side).reading bytes = packets)
    (faultless : ((pair.party side).pipe.reader.push bytes).drain.2.1 = none) :
    pair.Becomes side (pair.arrive side (pair.party side).pipe.generation stream bytes rest)
      ((pair.party side).handling bytes)
      ((packets.flatMap Packet.answers).foldl (Course.hear stream) (pair.course side))
      ((packets.flatMap Packet.notices).foldl (Course.see stream) (pair.course side.other)) := by
  rw [arrive_heeded pair side stream bytes rest (steady.isOpen side) fun attachment attached =>
    ((steady.regular side).attached attachment attached).1, faultless, read]
  exact handled_becomes pair side inFlight read

theorem Steady.arrive (steady : pair.Steady stream) {side : Side} {bytes : Bytes}
    {packets rest : List Packet} (attached : (pair.party side).pipe.stream? = some stream)
    (inFlight : (pair.lane stream side.other).inFlight = packets ++ rest)
    (read : (pair.party side).reading bytes = packets)
    (faultless : ((pair.party side).pipe.reader.push bytes).drain.2.1 = none) :
    (pair.arrive side (pair.party side).pipe.generation stream bytes rest).Steady stream := by
  have regular := steady.regular side
  obtain ⟨ids, released, course⟩ := steady.course side
  obtain ⟨otherIds, otherReleased, other⟩ := steady.course side.other
  have streams : (pair.course side).senderStreams ≠ [] := by
    intro none
    obtain ⟨attachment, found, _⟩ := Option.map_eq_some_iff.mp attached
    have last := (regular.attached attachment found).2
    rw [show (pair.party side).streams = [] from none] at last
    cases last
  have heard := course.hearAll streams (packets.flatMap Packet.answers)
    (rest.flatMap Packet.answers) (by simp [Pair.course, Lane.say, inFlight])
  obtain ⟨_, seen⟩ := other.seeAll (by simpa [Pair.course] using attached)
    (packets.flatMap Packet.notices) (rest.flatMap Packet.notices)
    (by simp [Pair.course, Lane.say, inFlight])
  exact steady.becomes (steady.arrive_becomes inFlight read faultless) ⟨_, _, heard⟩ ⟨_, _, seen⟩
    (regular.handling bytes)

/-! ## What follows -/

/-- The report of a place is that of the message with this ticket, and says what the receiver did
with it. -/
theorem Steady.report (steady : pair.Steady stream) (side : Side) {place : Nat}
    {told : Ticket × Outcome} (found : (pair.party side).reports[place]? = some told) :
    told.1 = place ∧ ∃ receipt id, (pair.party side.other).receipts[place]? = some receipt ∧
      told.2 = MessageId.outcome id receipt.verdict := by
  obtain ⟨ids, released, course⟩ := steady.course side
  obtain ⟨rest, whole⟩ := course.told
  have bound := (List.getElem?_eq_some_iff.mp found).1
  have listed : ((pair.course side).tidings ids)[place]? = some told := by
    exact (congrArg (·[place]?) whole).symm.trans ((List.getElem?_append_left bound).trans found)
  simp only [Course.tidings, List.getElem?_mapIdx, Option.map_eq_some_iff] at listed
  obtain ⟨⟨id, verdict⟩, zipped, rfl⟩ := listed
  obtain ⟨_, judged⟩ := List.getElem?_zip_eq_some.mp zipped
  simp only [Course.verdicts, List.getElem?_map, Option.map_eq_some_iff] at judged
  obtain ⟨receipt, ended, rfl⟩ := judged
  exact ⟨rfl, receipt, id, ended, rfl⟩

/-- What is told of a message is what the receiver did with it. -/
theorem Steady.receipt_of_report (steady : pair.Steady stream) (side : Side) {ticket : Ticket}
    {outcome : Outcome} (told : (ticket, outcome) ∈ (pair.party side).reports) :
    ∃ receipt id, (pair.party side.other).receipts[ticket]? = some receipt ∧
      outcome = MessageId.outcome id receipt.verdict := by
  obtain ⟨place, found⟩ := List.getElem?_of_mem told
  obtain ⟨rfl, judged⟩ := steady.report side found
  exact judged

/-- What was handed over and what waits is what was accepted, as far as it has arrived. -/
theorem Steady.inOrder (steady : pair.Steady stream) (side : Side) :
    (pair.party side.other).handed ++ (pair.party side.other).pipe.waiting.map Prod.snd <+:
      (pair.party side).accepted := by
  obtain ⟨_, _, course⟩ := steady.course side
  have inOrder := course.inOrder
  exact ⟨_, (congrArg (· ++ _) inOrder).trans (List.take_append_drop _ _)⟩

theorem Steady.idle (steady : pair.Steady stream) (side : Side)
    (idle : (pair.party side).busy = none) :
    (pair.party side).receipts.length = (pair.party side).handed.length := by
  obtain ⟨_, _, course⟩ := steady.course side.other
  simpa [Pair.course] using course.idle (by simpa [Pair.course] using idle)

theorem Steady.engaged (steady : pair.Steady stream) (side : Side) {id : MessageId}
    (busy : (pair.party side).busy = some id) :
    (pair.party side).receipts.length + 1 = (pair.party side).handed.length := by
  obtain ⟨_, _, course⟩ := steady.course side.other
  simpa [Pair.course] using (course.engaged id (by simpa [Pair.course] using busy)).2

/-- Nothing is in flight on the stream, and no message waits or is with a receiver. -/
structure AtRest (pair : Pair) (stream : StreamId) : Prop where
  inUse : ∀ side, (pair.party side).pipe.stream? = some stream
  inFlight : ∀ side, (pair.lane stream side).inFlight = []
  waiting : ∀ side, (pair.party side).pipe.waiting = []
  busy : ∀ side, (pair.party side).busy = none

/-- **Where nothing is lost, everybody is told in the end**: once nothing is in flight and nothing
is worked on, there is a report for each message that was accepted. -/
theorem Steady.told_all (steady : pair.Steady stream) (rest : pair.AtRest stream) (side : Side)
    {ticket : Ticket} (accepted : ticket < (pair.party side).accepted.length) :
    ∃ outcome, (ticket, outcome) ∈ (pair.party side).reports := by
  obtain ⟨ids, released, course⟩ := steady.course side
  have joined : (pair.course side).Joined stream ids := by
    rcases course.sending with apart | joined
    · have detached := apart.detached.symm.trans (rest.inUse side)
      cases detached
    · exact joined
  have forth : ((pair.course side).forth stream).inFlight = [] := by
    simp [Pair.course, Lane.say, rest.inFlight]
  have back : ((pair.course side).back stream).inFlight = [] := by
    simp [Pair.course, Lane.say, rest.inFlight]
  have waiting : (pair.course side).waiting = [] := rest.waiting side.other
  have arrived : (pair.course side).accepted.length ≤ (pair.course side).received := by
    have carried := joined.carried
    rw [forth, List.filterMap_nil, eq_comm, List.drop_eq_nil_iff, List.length_zip,
      course.named, Nat.min_self] at carried
    exact carried
  have concluded := course.idle (rest.busy side.other)
  have settled := course.settled
  rw [back, List.filterMap_nil, eq_comm, List.drop_eq_nil_iff, List.length_zip,
    Course.length_verdicts, Nat.min_eq_right course.receipts_le_ids] at settled
  have handed : (pair.course side).received = (pair.course side).handed.length := by
    simp [Course.received, waiting]
  have all : (pair.course side).accepted.length ≤ (pair.course side).reports.length := by omega
  have bound : ticket < (pair.course side).reports.length := Nat.lt_of_lt_of_le accepted all
  obtain ⟨⟨place, outcome⟩, found⟩ : ∃ told, (pair.party side).reports[ticket]? = some told :=
    ⟨_, List.getElem?_eq_getElem bound⟩
  obtain ⟨rfl, _⟩ := steady.report side found
  exact ⟨outcome, List.mem_of_getElem? found⟩

end Pair

end Courier
