import Courier.Proofs.Pipe.Handling

/-!
# What the operations of a pair do to its courses

Each operation of a pair is, for each of its two courses, a change of the course or
nothing.  `Becomes` says of an operation what it makes of the party that does it
and of the two courses, and there is one such statement for each operation.
-/

namespace Courier

set_option autoImplicit false

/-! ## Several answers or notices -/

namespace Course

theorem foldl_hear (course : Course) (stream : StreamId) (answers : List Answer) :
    answers.foldl (hear stream) course =
      { course with
        outbound := Answer.settleAll course.outbound answers
        reports := course.reports ++ Answer.reportsAll course.outbound answers
        forth := Lane.put course.forth course.senderStream (answers.flatMap Answer.reply)
        back := Function.update course.back stream
          { course.back stream with
            inFlight := (course.back stream).inFlight.drop answers.length } } := by
  induction answers generalizing course with
  | nil => simp [Answer.settleAll, Answer.reportsAll]
  | cons answer answers ih =>
    rw [List.foldl_cons, ih]
    simp [hear, Answer.settleAll, Answer.reportsAll, Lane.put_put, Lane.pop]

theorem foldl_see (course : Course) (stream : StreamId) (notices : List Notice) :
    notices.foldl (see stream) course =
      { course with
        inbound := Notice.noteAll course.inbound notices
        waiting := course.waiting ++ Notice.deliveriesAll course.inbound notices
        forth := Function.update course.forth stream
          { course.forth stream with
            inFlight := (course.forth stream).inFlight.drop notices.length }
        back := Lane.put course.back course.receiverStream
          (Notice.repliesAll course.inbound notices) } := by
  induction notices generalizing course with
  | nil => simp [Notice.noteAll, Notice.deliveriesAll, Notice.repliesAll]
  | cons notice notices ih =>
    rw [List.foldl_cons, ih]
    simp [see, Notice.noteAll, Notice.deliveriesAll, Notice.repliesAll, Lane.put_put, Lane.pop]

end Course

/-! ## Pipes -/

/-- The id under which the next message is entered. -/
def Exchange.newId (exchange : Exchange) : MessageId :=
  Numbering.firstFree MessageId.next exchange.busyIds exchange.nextId

/-- As long as the ids suffice, the next message gets the number of the messages sent for an id. -/
theorem Exchange.newId_toNat (exchange : Exchange) {count : Nat}
    (counter : exchange.nextId = .ofNat count)
    (place : ∀ entry ∈ exchange.outbound, entry.id.toNat < count) (within : count < 0x1000000) :
    exchange.newId.toNat = count := by
  have number : (MessageId.ofNat count).toNat = count := MessageId.toNat_ofNat_of_lt within
  rw [newId, Numbering.firstFree_of_not_mem, counter, number]
  intro busy
  obtain ⟨entry, held, same⟩ := List.mem_map.mp busy
  have bound := place entry held
  rw [same, counter, number] at bound
  exact Nat.lt_irrefl _ bound

/-- A message is entered and written, or nothing happens. -/
theorem Pipe.send_cases (pipe : Pipe) (body : Bytes) (ticket : Ticket) :
    (∃ error, (error = .tooManyInFlight pipe.settings.inFlightLimit ∨ pipe.closed = true) ∧
        pipe.send body ticket = (.error error, pipe, [])) ∨
      pipe.closed = false ∧
        pipe.exchange.outbound.length < pipe.settings.inFlightLimit ∧
        pipe.send body ticket =
          (.ok pipe.exchange.newId,
            { pipe with exchange := { pipe.exchange with
                nextId := pipe.exchange.newId.next
                sent := pipe.exchange.sent + 1
                outbound := pipe.exchange.outbound ++
                  [⟨pipe.exchange.newId, pipe.exchange.sent, some body, ticket⟩] } },
            pipe.write [.data pipe.exchange.newId body]) := by
  unfold Pipe.send Exchange.enqueue
  cases closed : pipe.closed with
  | true => exact .inl ⟨_, .inr rfl, rfl⟩
  | false =>
    by_cases full : pipe.settings.inFlightLimit ≤ pipe.exchange.outbound.length
    · exact .inl ⟨.tooManyInFlight pipe.settings.inFlightLimit, .inl rfl, by simp [full]⟩
    · exact .inr ⟨rfl, Nat.lt_of_not_le full, by simp [full, Exchange.newId]⟩

theorem Pipe.install_cases (pipe : Pipe) (stream : StreamId) :
    (∃ error, pipe.install stream = .error error) ∨
      pipe.closed = false ∧
        pipe.install stream =
          .ok ({ pipe with
              generation := pipe.generation + 1
              attached := some ⟨stream, pipe.generation + 1⟩
              reader := .new pipe.settings.maxPacketBytes },
            (pipe.attached.map fun previous => PipeEffect.shut previous.stream).toList,
            pipe.exchange.resync) := by
  unfold Pipe.install
  cases closed : pipe.closed with
  | true => exact .inl ⟨_, rfl⟩
  | false => exact .inr ⟨rfl, rfl⟩

/-- The counters of a pipe fit what has happened at it. -/
structure Party.Regular (party : Party) : Prop where
  generation : party.pipe.generation = party.streams.length
  attached : ∀ attachment, party.pipe.attached = some attachment →
    attachment.generation = party.pipe.generation ∧
      party.streams.getLast? = some attachment.stream
  sent : party.pipe.exchange.sent = party.accepted.length
  ascending : party.streams.Pairwise (· < ·)

/-- The party after a stream has been put in use. -/
def Party.attaching (party : Party) (stream : StreamId) : Party :=
  { party with
    streams := party.streams ++ [stream]
    pipe := { party.pipe with
      generation := party.pipe.generation + 1
      attached := some ⟨stream, party.pipe.generation + 1⟩
      reader := .new party.pipe.settings.maxPacketBytes } }

theorem Party.Regular.attaching {party : Party} (regular : party.Regular) {stream : StreamId}
    (later : ∀ earlier ∈ party.streams, earlier < stream) : (party.attaching stream).Regular where
  generation := by simp [Party.attaching, regular.generation]
  attached attachment attached := by
    obtain rfl := Option.some.inj attached
    simp [Party.attaching]
  sent := regular.sent
  ascending := List.pairwise_append.mpr ⟨regular.ascending, List.pairwise_singleton _ _,
    fun earlier before last same => List.mem_singleton.mp same ▸ later earlier before⟩

/-- The party after its stream has been lost. -/
def Party.detached (party : Party) : Party :=
  { party with pipe := { party.pipe with attached := none } }

theorem Party.Regular.detached {party : Party} (regular : party.Regular) : party.detached.Regular :=
  { regular with attached := fun _ attached => by cases attached }

/-- A stream of an earlier generation has been followed by a later one. -/
theorem Party.Regular.stale {party : Party} (regular : party.Regular) {generation : Nat}
    {stream : StreamId} (attached : party.stream? generation = some stream)
    (old : generation ≠ party.pipe.generation) : ∃ newer ∈ party.streams, stream < newer := by
  cases generation with
  | zero => cases attached
  | succ number =>
    obtain ⟨bound, found⟩ := List.getElem?_eq_some_iff.mp attached
    have last : party.streams.length - 1 < party.streams.length := by omega
    have further : number < party.streams.length - 1 := by
      have := regular.generation
      omega
    refine ⟨party.streams[party.streams.length - 1], List.getElem_mem last, ?_⟩
    rw [← found]
    exact List.pairwise_iff_getElem.mp regular.ascending _ _ bound last further

theorem Party.Regular.newest {party : Party} (regular : party.Regular) {stream : StreamId}
    (attached : party.stream? party.pipe.generation = some stream) :
    ∀ earlier ∈ party.streams, earlier ≤ stream := by
  intro earlier listed
  rw [regular.generation] at attached
  cases length : party.streams.length with
  | zero => simp [List.length_eq_zero_iff.mp length] at listed
  | succ number =>
    rw [length] at attached
    obtain ⟨bound, found⟩ := List.getElem?_eq_some_iff.mp attached
    obtain ⟨place, earlierBound, same⟩ := List.getElem_of_mem listed
    rcases Nat.lt_or_ge place number with before | last
    · rw [← found, ← same]
      exact Nat.le_of_lt (List.pairwise_iff_getElem.mp regular.ascending _ _ earlierBound
        bound before)
    · obtain rfl : place = number := by omega
      exact Nat.le_of_eq (same.symm.trans found)

theorem Party.mem_of_stream? {party : Party} {generation : Nat} {stream : StreamId}
    (attached : party.stream? generation = some stream) : stream ∈ party.streams := by
  cases generation with
  | zero => cases attached
  | succ number => exact List.mem_of_getElem? attached

/-- The party after a message has been entered. -/
def Party.entering (party : Party) (body : Bytes) : Party :=
  { party with
    accepted := party.accepted ++ [body]
    pipe := { party.pipe with exchange := { party.pipe.exchange with
      nextId := party.pipe.exchange.newId.next
      sent := party.pipe.exchange.sent + 1
      outbound := party.pipe.exchange.outbound ++
        [⟨party.pipe.exchange.newId, party.pipe.exchange.sent, some body,
          party.accepted.length⟩] } } }

theorem Party.Regular.entering {party : Party} (regular : party.Regular) (body : Bytes) :
    (party.entering body).Regular :=
  { regular with sent := by simp [Party.entering, regular.sent] }

/-- The party after it has closed its pipe. -/
def Party.closing (party : Party) : Party :=
  { party with
    reports := party.reports ++
      party.pipe.exchange.outbound.map fun entry => (entry.ticket, .error .closed)
    pipe := { party.pipe with
      closed := true
      exchange := { party.pipe.exchange with outbound := [], inbound := [] }
      attached := none } }

theorem Party.Regular.closing {party : Party} (regular : party.Regular) : party.closing.Regular :=
  { regular with attached := fun _ attached => by cases attached }

/-- The party after a message has been handed to its receiver. -/
def Party.receiving (party : Party) (id : MessageId) (body : Bytes)
    (rest : List (MessageId × Bytes)) : Party :=
  { party with
    pipe := { party.pipe with waiting := rest }
    busy := some id
    handed := party.handed ++ [body] }

/-- The party after its receiver has ended with a message. -/
def Party.concluding (party : Party) (id : MessageId) (receipt : Receipt) : Party :=
  { party with
    busy := none
    receipts := party.receipts ++ [receipt]
    pipe := (party.pipe.conclude id receipt.verdict).1 }

/-- What the receiver makes of a message concerns neither the stream nor the counters. -/
theorem Pipe.conclude_kept (pipe : Pipe) (id : MessageId) (verdict : Except String Unit) :
    (pipe.conclude id verdict).1.generation = pipe.generation ∧
      (pipe.conclude id verdict).1.attached = pipe.attached ∧
      (pipe.conclude id verdict).1.exchange.sent = pipe.exchange.sent ∧
      (pipe.conclude id verdict).1.exchange.nextId = pipe.exchange.nextId := by
  have counters := pipe.exchange.conclude_counters id verdict
  unfold Pipe.conclude
  split
  · exact ⟨rfl, rfl, rfl, rfl⟩
  · split <;> rename_i concluded <;> rw [concluded] at counters <;>
      exact ⟨rfl, rfl, counters.1, counters.2⟩

theorem Pipe.conclude_settings (pipe : Pipe) (id : MessageId) (verdict : Except String Unit) :
    (pipe.conclude id verdict).1.settings = pipe.settings := by
  unfold Pipe.conclude
  split
  · rfl
  · split <;> rfl

theorem Party.Regular.concluding {party : Party} (regular : party.Regular) (id : MessageId)
    (receipt : Receipt) : (party.concluding id receipt).Regular := by
  obtain ⟨generation, attached, sent, _⟩ := party.pipe.conclude_kept id receipt.verdict
  exact
    { generation := generation.trans regular.generation
      attached := fun attachment found => by
        refine (regular.attached attachment (attached.symm.trans found)).imp_left fun current => ?_
        exact current.trans generation.symm
      sent := sent.trans regular.sent
      ascending := regular.ascending }

/-- What a party is after it has handled packets. -/
def Party.handling (party : Party) (bytes : Bytes) : Party :=
  let handled := party.pipe.exchange.handleAll (party.reading bytes)
  { party with
    pipe := { party.pipe with
      reader := (party.pipe.reader.push bytes).drain.2.2
      exchange := handled.2
      waiting := party.pipe.waiting ++ handled.1.deliveries }
    reports := party.reports ++ handled.1.outcomes }

theorem Party.Regular.handling {party : Party} (regular : party.Regular) (bytes : Bytes) :
    (party.handling bytes).Regular :=
  { regular with
    sent := (party.pipe.exchange.handleAll_handled _).sent.trans regular.sent }

/-! ## Parts of a pair -/

namespace Pair

variable {pair : Pair} {side : Side}

@[simp] theorem party_setParty_self (party : Party) :
    (pair.setParty side party).party side = party := by
  simp [setParty]

@[simp] theorem party_setParty_other (party : Party) :
    (pair.setParty side party).party side.other = pair.party side.other := by
  simp [setParty, Side.other_ne]

@[simp] theorem setParty_setParty (first second : Party) :
    (pair.setParty side first).setParty side second = pair.setParty side second := by
  simp [setParty]

theorem course_setParty_self (party : Party) :
    (pair.setParty side party).course side =
      { pair.course side with
        accepted := party.accepted
        outbound := party.pipe.exchange.outbound
        reports := party.reports
        senderOpen := !party.pipe.closed
        senderStream := party.pipe.stream?
        senderStreams := party.streams } := by
  simp [course, setParty, Side.other_ne]

theorem course_setParty_other (party : Party) :
    (pair.setParty side party).course side.other =
      { pair.course side.other with
        inbound := party.pipe.exchange.inbound
        waiting := party.pipe.waiting
        busy := party.busy
        handed := party.handed
        receipts := party.receipts
        receiverOpen := !party.pipe.closed
        receiverStream := party.pipe.stream?
        receiverStreams := party.streams } := by
  simp [course, setParty, Side.other_ne]

theorem course_setLane_self (stream : StreamId) (lane : Lane Packet) :
    (pair.setLane stream side lane).course side =
      { pair.course side with
        forth := Function.update (pair.course side).forth stream (lane.say Packet.notices) } := by
  simp only [course, setLane, Course.mk.injEq, true_and]
  constructor <;> funext other <;> by_cases same : other = stream <;>
    simp [same, Side.other_ne]

theorem course_setLane_other (stream : StreamId) (lane : Lane Packet) :
    (pair.setLane stream side lane).course side.other =
      { pair.course side.other with
        back :=
          Function.update (pair.course side.other).back stream (lane.say Packet.answers) } := by
  simp only [course, setLane, Course.mk.injEq, true_and]
  constructor <;> funext other <;> by_cases same : other = stream <;>
    simp [same, Side.other_ne]

/-! ### What is done outside a pipe -/

theorem performAll_append (first second : List PipeEffect) :
    pair.performAll side (first ++ second) = (pair.performAll side first).performAll side second :=
  List.foldl_append

/-- What is reported is put down. -/
theorem performAll_reports (outcomes : List (Ticket × Outcome)) :
    pair.performAll side (outcomes.map fun entry => .report entry.1 entry.2) =
      pair.setParty side
        { pair.party side with reports := (pair.party side).reports ++ outcomes } := by
  induction outcomes generalizing pair with
  | nil => simp [performAll, setParty]
  | cons outcome outcomes ih =>
    have first : pair.performAll side
        ((outcome :: outcomes).map fun entry => PipeEffect.report entry.1 entry.2)
        = (perform side pair (.report outcome.1 outcome.2)).performAll side
          (outcomes.map fun entry => .report entry.1 entry.2) := rfl
    rw [first, ih]
    simp [perform]

theorem course_write_self (stream : StreamId) (generation : Nat) (packets : List Packet) :
    (perform side pair (.write stream generation packets)).course side =
      { pair.course side with
        forth := Lane.put (pair.course side).forth (some stream)
          (packets.flatMap Packet.notices) } := by
  rw [perform, course_setLane_self, Lane.say_write]
  rfl

theorem course_write_other (stream : StreamId) (generation : Nat) (packets : List Packet) :
    (perform side pair (.write stream generation packets)).course side.other =
      { pair.course side.other with
        back := Lane.put (pair.course side.other).back (some stream)
          (packets.flatMap Packet.answers) } := by
  rw [perform, course_setLane_other, Lane.say_write]
  simp [Lane.put, course]

theorem performAll_shut (attached : Option Attachment) :
    pair.performAll side (attached.map fun previous => PipeEffect.shut previous.stream).toList =
      pair := by
  cases attached <;> rfl

section Writing

variable (pipe : Pipe) (packets : List Packet)

/-- What a pipe writes goes to the stream that it has attached. -/
theorem course_performAll_write_self :
    (pair.performAll side (pipe.write packets)).course side =
      { pair.course side with
        forth := Lane.put (pair.course side).forth pipe.stream?
          (packets.flatMap Packet.notices) } := by
  unfold Pipe.write Pipe.stream?
  cases pipe.attached with
  | none => rfl
  | some attachment => exact course_write_self _ attachment.generation _

theorem course_performAll_write_other :
    (pair.performAll side (pipe.write packets)).course side.other =
      { pair.course side.other with
        back := Lane.put (pair.course side.other).back pipe.stream?
          (packets.flatMap Packet.answers) } := by
  unfold Pipe.write Pipe.stream?
  cases pipe.attached with
  | none => rfl
  | some attachment => exact course_write_other _ attachment.generation _

theorem party_performAll_write :
    (pair.performAll side (pipe.write packets)).party = pair.party := by
  unfold Pipe.write
  cases pipe.attached <;> rfl

end Writing

/-! ## Operations -/

/-- What an operation of one side makes of a pair: the party of that side, and the two courses. -/
structure Becomes (pair : Pair) (side : Side) (after : Pair) (party : Party)
    (sending receiving : Course) : Prop where
  own : after.party side = party
  peer : after.party side.other = pair.party side.other
  sending : after.course side = sending
  receiving : after.course side.other = receiving

/-- Nothing happened. -/
theorem Becomes.nothing (pair : Pair) (side : Side) :
    pair.Becomes side pair (pair.party side) (pair.course side) (pair.course side.other) :=
  ⟨rfl, rfl, rfl, rfl⟩

/-- The party has changed and has written something, wherever its stream leads. -/
theorem Becomes.of_write (pair : Pair) (side : Side) (party : Party) (packets : List Packet) :
    pair.Becomes side ((pair.setParty side party).performAll side (party.pipe.write packets)) party
      { pair.course side with
        accepted := party.accepted
        outbound := party.pipe.exchange.outbound
        reports := party.reports
        senderOpen := !party.pipe.closed
        senderStream := party.pipe.stream?
        senderStreams := party.streams
        forth := Lane.put (pair.course side).forth party.pipe.stream?
          (packets.flatMap Packet.notices) }
      { pair.course side.other with
        inbound := party.pipe.exchange.inbound
        waiting := party.pipe.waiting
        busy := party.busy
        handed := party.handed
        receipts := party.receipts
        receiverOpen := !party.pipe.closed
        receiverStream := party.pipe.stream?
        receiverStreams := party.streams
        back := Lane.put (pair.course side.other).back party.pipe.stream?
          (packets.flatMap Packet.answers) } where
  own := by rw [party_performAll_write, party_setParty_self]
  peer := by rw [party_performAll_write, party_setParty_other]
  sending := by rw [course_performAll_write_self, course_setParty_self]
  receiving := by rw [course_performAll_write_other, course_setParty_other]

/-- The party has changed without writing anything. -/
theorem Becomes.of_setParty (pair : Pair) (side : Side) (party : Party) :
    pair.Becomes side (pair.setParty side party) party
      { pair.course side with
        accepted := party.accepted
        outbound := party.pipe.exchange.outbound
        reports := party.reports
        senderOpen := !party.pipe.closed
        senderStream := party.pipe.stream?
        senderStreams := party.streams }
      { pair.course side.other with
        inbound := party.pipe.exchange.inbound
        waiting := party.pipe.waiting
        busy := party.busy
        handed := party.handed
        receipts := party.receipts
        receiverOpen := !party.pipe.closed
        receiverStream := party.pipe.stream?
        receiverStreams := party.streams } where
  own := party_setParty_self party
  peer := party_setParty_other party
  sending := course_setParty_self party
  receiving := course_setParty_other party

/-- A message is refused, or it is entered and written. -/
theorem send_cases (pair : Pair) (side : Side) (body : Bytes)
    (sent : (pair.party side).pipe.exchange.sent = (pair.party side).accepted.length) :
    (∃ error, (error = .tooManyInFlight (pair.party side).pipe.settings.inFlightLimit ∨
          (pair.party side).pipe.closed = true) ∧
        (pair.party side).pipe.send body (pair.party side).accepted.length =
          (.error error, (pair.party side).pipe, []) ∧
        pair.send side body = pair) ∨
      ∃ pipe effects, (pair.party side).pipe.send body (pair.party side).accepted.length =
          (.ok (pair.party side).pipe.exchange.newId, pipe, effects) ∧
        (pair.party side).pipe.closed = false ∧
        (pair.party side).pipe.exchange.outbound.length <
          (pair.party side).pipe.settings.inFlightLimit ∧
        pair.Becomes side (pair.send side body) ((pair.party side).entering body)
          ((pair.course side).enter (pair.party side).pipe.exchange.newId body)
          (pair.course side.other) := by
  rcases (pair.party side).pipe.send_cases body (pair.party side).accepted.length with
    ⟨error, reason, refused⟩ | ⟨isOpen, room, accepted⟩
  · refine .inl ⟨error, reason, refused, ?_⟩
    unfold Pair.send
    simp only [refused]
  · refine .inr ⟨_, _, accepted, isOpen, room, ?_⟩
    unfold Pair.send
    simp only [accepted, change, setParty_setParty, party_setParty_self]
    have written := Becomes.of_write pair side ((pair.party side).entering body)
      [.data (pair.party side).pipe.exchange.newId body]
    simpa [Course.enter, Party.entering, sent, Packet.notices, Packet.answers, course, isOpen,
      Pipe.stream?, Pipe.write] using written

/-- A stream is attached, and what has to be said on it is written; a closed pipe takes none. -/
theorem attach_cases (pair : Pair) (side : Side) (stream : StreamId) :
    pair.attach side stream = pair ∨
      (pair.party side).pipe.closed = false ∧
        pair.Becomes side (pair.attach side stream) ((pair.party side).attaching stream)
          ((pair.course side).senderAttach stream)
          ((pair.course side.other).receiverAttach stream
            ((pair.party side).pipe.exchange.resync.flatMap Packet.answers)) := by
  unfold Pair.attach
  rcases (pair.party side).pipe.install_cases stream with ⟨error, refused⟩ | ⟨isOpen, installed⟩
  · left
    simp only [refused]
  · refine .inr ⟨isOpen, ?_⟩
    simp only [installed, change, performAll_append, performAll_shut, setParty_setParty,
      party_setParty_self]
    have written := Becomes.of_write pair side ((pair.party side).attaching stream)
      (pair.party side).pipe.exchange.resync
    rw [Exchange.resync_notices] at written
    simpa [Course.senderAttach, Course.receiverAttach, Party.attaching, course, isOpen,
      Pipe.stream?, Pipe.write, Course.unconfirmed] using written

/-- A stream that is attached and cannot be bound is gone again. -/
theorem attachInVain_cases (pair : Pair) (side : Side) (stream : StreamId) :
    pair.attachInVain side stream = pair ∨
      pair.Becomes side (pair.attachInVain side stream)
        ((pair.party side).attaching stream).detached
        ((pair.course side).senderAttachInVain stream)
        ((pair.course side.other).receiverAttachInVain stream) := by
  unfold Pair.attachInVain
  rcases (pair.party side).pipe.install_cases stream with ⟨error, refused⟩ | ⟨isOpen, installed⟩
  · left
    simp only [refused]
  · right
    simp only [installed, change, performAll_shut, setParty_setParty, party_setParty_self,
      Pipe.uninstall]
    have detached := Becomes.of_setParty pair side ((pair.party side).attaching stream).detached
    simpa [Course.senderAttachInVain, Course.receiverAttachInVain, Party.attaching, Party.detached,
      course, isOpen, Pipe.stream?] using detached

theorem bind_cases (pair : Pair) (side : Side) :
    pair.bind side = pair ∨
      pair.Becomes side (pair.bind side)
        { pair.party side with pipe := { (pair.party side).pipe with reception := .running } }
        (pair.course side) (pair.course side.other) := by
  unfold Pair.bind
  cases bound : (pair.party side).pipe.bind with
  | error error =>
    left
    simp only [bound]
  | ok pipe =>
    right
    simp only [bound]
    unfold Pipe.bind at bound
    split at bound
    · cases bound
    · split at bound
      · rw [← Except.ok.inj bound]
        have running := Becomes.of_setParty pair side
          { pair.party side with pipe := { (pair.party side).pipe with reception := .running } }
        simpa [course, Pipe.stream?] using running
      · cases bound

/-- The next message that waits is handed over; if none does, nothing happens. -/
theorem hand_cases (pair : Pair) (side : Side) :
    (pair.party side).pipe.waiting = [] ∧ pair.hand side = pair ∨
      ∃ id body rest, (pair.party side).pipe.waiting = (id, body) :: rest ∧
        pair.Becomes side (pair.hand side) ((pair.party side).receiving id body rest)
          (pair.course side) ((pair.course side.other).hand id body rest) := by
  unfold Pair.hand Pipe.takeWaiting
  cases waiting : (pair.party side).pipe.waiting with
  | nil =>
    left
    simp only [waiting, and_self]
  | cons message rest =>
    obtain ⟨id, body⟩ := message
    refine .inr ⟨id, body, rest, rfl, ?_⟩
    simp only [waiting]
    have handed := Becomes.of_setParty pair side ((pair.party side).receiving id body rest)
    simpa [course, Course.hand, Pipe.stream?, Party.receiving] using handed

/-- The receiver ends with the message it is at. -/
theorem conclude_eq (pair : Pair) (side : Side) (receipt : Receipt) {id : MessageId}
    (busy : (pair.party side).busy = some id) :
    pair.conclude side receipt =
      (pair.setParty side ((pair.party side).concluding id receipt)).performAll side
        ((pair.party side).pipe.conclude id receipt.verdict).2 := by
  unfold Pair.conclude
  simp only [busy, change, setParty_setParty, party_setParty_self]
  rfl

/-- While the pipe is open, the receiver's verdict is put down and written. -/
theorem conclude_open (pair : Pair) (side : Side) (receipt : Receipt) {id : MessageId}
    (busy : (pair.party side).busy = some id) (isOpen : (pair.party side).pipe.closed = false)
    (received : (pair.party side).pipe.exchange.disposition? id = some .received) :
    pair.Becomes side (pair.conclude side receipt) ((pair.party side).concluding id receipt)
      (pair.course side) ((pair.course side.other).conclude id receipt) := by
  have written := Becomes.of_write pair side ((pair.party side).concluding id receipt)
    [(Disposition.ofVerdict receipt.verdict).answer id]
  rw [conclude_eq pair side receipt busy]
  simpa [Party.concluding, Pipe.conclude, isOpen, Exchange.conclude_of_received _ _ received,
    course, Pipe.stream?, Pipe.write, Disposition.notices_answer, Disposition.answers_answer,
    Exchange.setDisposition, Course.conclude, Course.judged, Disposition.toAnswer_ofVerdict]
    using written

theorem conclude_closed (pair : Pair) (side : Side) (receipt : Receipt) {id : MessageId}
    (busy : (pair.party side).busy = some id) (closed : (pair.party side).pipe.closed = true) :
    pair.Becomes side (pair.conclude side receipt) ((pair.party side).concluding id receipt)
      (pair.course side) ((pair.course side.other).concludeClosed receipt) := by
  have concluded := Becomes.of_setParty pair side ((pair.party side).concluding id receipt)
  rw [conclude_eq pair side receipt busy]
  simpa [Party.concluding, Pipe.conclude, closed, course, Pipe.stream?, performAll,
    Course.concludeClosed] using concluded

/-- A verdict on a message that does not count as received is not put down. -/
theorem conclude_settled (pair : Pair) (side : Side) (receipt : Receipt) {id : MessageId}
    (busy : (pair.party side).busy = some id) (isOpen : (pair.party side).pipe.closed = false)
    (settled : (pair.party side).pipe.exchange.disposition? id ≠ some .received) :
    pair.Becomes side (pair.conclude side receipt) ((pair.party side).concluding id receipt)
      (pair.course side) ((pair.course side.other).concludeClosed receipt) := by
  have concluded := Becomes.of_setParty pair side ((pair.party side).concluding id receipt)
  rw [conclude_eq pair side receipt busy]
  simpa [Party.concluding, Pipe.conclude, isOpen, Exchange.conclude_of_settled _ _ settled, course,
    Pipe.stream?, performAll, Course.concludeClosed] using concluded

/-! ## The loss of a stream, and the end -/

theorem setParty_eq_self (pair : Pair) (side : Side) :
    pair.setParty side (pair.party side) = pair := by
  simp [setParty]

/-- The loss of the stream of a generation leaves a party without a stream, or as it was. -/
theorem lose_cases (party : Party) (generation : Nat) (cause : Option StreamError) :
    { party with pipe := (party.pipe.lose generation cause).1 } = party ∨
      { party with pipe := (party.pipe.lose generation cause).1 } = party.detached := by
  unfold Pipe.lose
  cases attached : party.pipe.attached with
  | none => exact .inl rfl
  | some attachment =>
    by_cases current : attachment.generation = generation
    · right
      simp only [current, if_true]
      rfl
    · left
      simp only [current, if_false]

/-- A party gives up its stream. -/
theorem Becomes.of_detached (pair : Pair) (side : Side) :
    pair.Becomes side (pair.setParty side (pair.party side).detached) (pair.party side).detached
      (pair.course side).senderLose (pair.course side.other).receiverLose := by
  have detached := Becomes.of_setParty pair side (pair.party side).detached
  simpa [Party.detached, course, Pipe.stream?, Course.senderLose, Course.receiverLose]
    using detached

theorem perform_lose_cases (pair : Pair) (side : Side) (generation : Nat)
    (cause : Option StreamError) :
    perform side pair (.lose generation cause) = pair ∨
      pair.Becomes side (perform side pair (.lose generation cause)) (pair.party side).detached
        (pair.course side).senderLose (pair.course side.other).receiverLose := by
  unfold perform
  rcases lose_cases (pair.party side) generation cause with same | detached
  · left
    simp only [same, setParty_eq_self]
  · right
    simp only [detached]
    exact .of_detached pair side

/-- What else a lost stream asks for does not concern the pair. -/
theorem performAll_lost (pair : Pair) (side : Side) (pipe : Pipe) (generation : Nat)
    (cause : Option StreamError) :
    pair.performAll side (pipe.lose generation cause).2 = pair := by
  unfold Pipe.lose
  cases pipe.attached with
  | none => rfl
  | some attachment =>
    by_cases current : attachment.generation = generation
    · cases closed : pipe.closed <;> simp [current, performAll, perform]
    · simp [current, performAll]

theorem lose_eq_perform (pair : Pair) (side : Side) (generation : Nat)
    (cause : Option StreamError) :
    pair.lose side generation cause = perform side pair (.lose generation cause) := by
  rw [Pair.lose, change, performAll_lost]
  rfl

theorem close_cases (pair : Pair) (side : Side) :
    pair.close side = pair ∨
      pair.Becomes side (pair.close side) (pair.party side).closing
        (pair.course side).senderClose (pair.course side.other).receiverClose := by
  unfold Pair.close change Pipe.close Exchange.abandon
  cases closed : (pair.party side).pipe.closed with
  | true =>
    left
    simp [performAll, setParty]
  | false =>
    right
    have notify : ∀ after : Pair, after.performAll side
        (if (pair.party side).pipe.reception = .unbound then [] else [.notify]) = after := by
      intro after
      split <;> rfl
    have closing := Becomes.of_setParty pair side (pair.party side).closing
    simp only [Bool.false_eq_true, if_false, performAll_append, performAll_reports, performAll_shut,
      notify, setParty_setParty, party_setParty_self]
    simp only [performAll, List.foldl_cons, List.foldl_nil, perform]
    simpa [Party.closing, course, Pipe.stream?, Course.senderClose, Course.receiverClose]
      using closing

/-- Packets in flight on the way out are lost. -/
theorem cut_becomes (pair : Pair) (stream : StreamId) (side : Side) (count : Nat) :
    pair.Becomes side (pair.cut stream side count) (pair.party side)
      ((pair.course side).cutForth stream
        (((pair.lane stream side).inFlight.take count).flatMap Packet.notices))
      ((pair.course side.other).cutBack stream
        (((pair.lane stream side).inFlight.take count).flatMap Packet.answers)) where
  own := rfl
  peer := rfl
  sending := course_setLane_self stream _
  receiving := course_setLane_other stream _

/-! ## Arrivals -/

/-- Replies go to the stream in use, since the bytes that are replied to came on it. -/
theorem performAll_reply (pair : Pair) (side : Side) (pipe : Pipe) {generation : Nat}
    (current : ∀ attachment, pipe.attached = some attachment → attachment.generation = generation)
    (packets : List Packet) :
    pair.performAll side (pipe.reply generation packets) =
      pair.performAll side (pipe.write packets) := by
  cases attached : pipe.attached with
  | none => cases packets <;> simp [Pipe.reply, Pipe.write, attached]
  | some attachment =>
    cases packets with
    | nil => simp [Pipe.reply, Pipe.write, attached, performAll, perform, setLane, Lane.write]
    | cons packet packets => simp [Pipe.reply, attached, current attachment attached]

/-- Bytes of a stream that is no longer read are taken from it, and that is all. -/
theorem arrive_ignored (pair : Pair) (side : Side) {generation : Nat} (stream : StreamId)
    (bytes : Bytes) (rest : List Packet)
    (ignored : generation ≠ (pair.party side).pipe.generation ∨
      (pair.party side).pipe.closed = true) :
    pair.arrive side generation stream bytes rest =
      pair.setLane stream side.other
        { pair.lane stream side.other with inFlight := rest } := by
  unfold Pair.arrive Pipe.accept
  rw [if_pos ignored]
  exact setParty_eq_self _ side

theorem arrive_heeded (pair : Pair) (side : Side) (stream : StreamId) (bytes : Bytes)
    (rest : List Packet) (isOpen : (pair.party side).pipe.closed = false)
    (current : ∀ attachment, (pair.party side).pipe.attached = some attachment →
      attachment.generation = (pair.party side).pipe.generation) :
    pair.arrive side (pair.party side).pipe.generation stream bytes rest =
      ((((pair.setLane stream side.other
          { pair.lane stream side.other with inFlight := rest }).setParty
          side ((pair.party side).handling bytes)).performAll side
          ((pair.party side).pipe.write
            ((pair.party side).pipe.exchange.handleAll
              ((pair.party side).reading bytes)).1.answers))).performAll
        side (Pipe.corruption (pair.party side).pipe.generation
          ((pair.party side).pipe.reader.push bytes).drain.2.1) := by
  have ignored : ¬ ((pair.party side).pipe.generation ≠ (pair.party side).pipe.generation ∨
      (pair.party side).pipe.closed = true) := by simp [isOpen]
  have wake : ∀ (after : Pair) (condition : Prop) [Decidable condition],
      after.performAll side (if condition then [] else [.wake]) = after := by
    intro after condition _
    split <;> rfl
  unfold Pair.arrive Pipe.accept
  rw [if_neg ignored]
  simp only [change, performAll_append, performAll_reports, wake, setParty_setParty,
    party_setParty_self, performAll_reply _ _ _ current]
  rfl

/-- What arrives is taken from the way to the sender of the answers. -/
theorem course_taken_self (pair : Pair) (side : Side) (stream : StreamId) (rest : List Packet) :
    (pair.setLane stream side.other
        { pair.lane stream side.other with inFlight := rest }).course side =
      (pair.course side).senderIgnore stream (rest.flatMap Packet.answers) := by
  have taken := @course_setLane_other pair side.other stream
    { pair.lane stream side.other with inFlight := rest }
  rw [Side.other_other] at taken
  exact taken

theorem course_taken_other (pair : Pair) (side : Side) (stream : StreamId) (rest : List Packet) :
    (pair.setLane stream side.other
        { pair.lane stream side.other with inFlight := rest }).course side.other =
      (pair.course side.other).receiverIgnore stream (rest.flatMap Packet.notices) :=
  course_setLane_self stream _

theorem arrive_ignored_becomes (pair : Pair) (side : Side) {generation : Nat} (stream : StreamId)
    (bytes : Bytes) (rest : List Packet)
    (ignored : generation ≠ (pair.party side).pipe.generation ∨
      (pair.party side).pipe.closed = true) :
    pair.Becomes side (pair.arrive side generation stream bytes rest) (pair.party side)
      ((pair.course side).senderIgnore stream (rest.flatMap Packet.answers))
      ((pair.course side.other).receiverIgnore stream (rest.flatMap Packet.notices)) := by
  rw [Pair.arrive_ignored pair side stream bytes rest ignored]
  exact ⟨rfl, rfl, course_taken_self pair side stream rest,
    course_taken_other pair side stream rest⟩

/-- The packets that arrive are heard and seen one after the other. -/
theorem handled_becomes (pair : Pair) (side : Side) {stream : StreamId} {bytes : Bytes}
    {packets rest : List Packet}
    (inFlight : (pair.lane stream side.other).inFlight = packets ++ rest)
    (read : (pair.party side).reading bytes = packets) :
    pair.Becomes side
      (((pair.setLane stream side.other
          { pair.lane stream side.other with inFlight := rest }).setParty side
            ((pair.party side).handling bytes)).performAll side
        ((pair.party side).pipe.write
          ((pair.party side).pipe.exchange.handleAll packets).1.answers))
      ((pair.party side).handling bytes)
      ((packets.flatMap Packet.answers).foldl (Course.hear stream) (pair.course side))
      ((packets.flatMap Packet.notices).foldl (Course.see stream) (pair.course side.other)) := by
  have handled := (pair.party side).pipe.exchange.handleAll_handled packets
  have back : ((pair.course side).back stream).inFlight =
      packets.flatMap Packet.answers ++ rest.flatMap Packet.answers := by
    simp [course, Lane.say, inFlight]
  have forth : ((pair.course side.other).forth stream).inFlight =
      packets.flatMap Packet.notices ++ rest.flatMap Packet.notices := by
    simp [course, Lane.say, inFlight]
  constructor
  · rw [party_performAll_write, party_setParty_self]
  · rw [party_performAll_write, party_setParty_other]
    rfl
  · rw [course_performAll_write_self, course_setParty_self, course_taken_self, Course.foldl_hear,
      back, List.drop_left]
    simp [course, Course.senderIgnore, Party.handling, read, Pipe.stream?, handled.outbound,
      handled.outcomes, handled.released]
  · rw [course_performAll_write_other, course_setParty_other, course_taken_other, Course.foldl_see,
      forth, List.drop_left]
    simp [course, Course.receiverIgnore, Party.handling, read, Pipe.stream?,
      handled.inbound, handled.deliveries, handled.answered]

/-! ## What was accepted stays accepted -/

/-- What a pipe asks for does not change which messages were accepted. -/
theorem accepted_performAll (effects : List PipeEffect) (subject : Side) :
    ((pair.performAll side effects).party subject).accepted = (pair.party subject).accepted := by
  induction effects generalizing pair with
  | nil => rfl
  | cons effect effects ih =>
    have rest : ((pair.performAll side (effect :: effects)).party subject).accepted =
        ((perform side pair effect).party subject).accepted := ih
    refine rest.trans ?_
    rcases side.eq_or_eq_other subject with rfl | rfl <;> cases effect <;> simp [perform, setLane]

theorem accepted_setParty {party : Party} (same : party.accepted = (pair.party side).accepted)
    (subject : Side) : ((pair.setParty side party).party subject).accepted =
      (pair.party subject).accepted := by
  rcases side.eq_or_eq_other subject with rfl | rfl
  · rw [party_setParty_self, same]
  · rw [party_setParty_other]

theorem accepted_change (changed : Pipe × List PipeEffect) (subject : Side) :
    ((pair.change side changed).party subject).accepted = (pair.party subject).accepted := by
  rw [change, accepted_performAll]
  exact accepted_setParty (by rfl) subject

theorem accepted_send (pair : Pair) (side : Side) (body : Bytes) (subject : Side) :
    (pair.party subject).accepted <+: ((pair.send side body).party subject).accepted := by
  unfold Pair.send
  rcases (pair.party side).pipe.send_cases body (pair.party side).accepted.length with
    ⟨error, _, refused⟩ | ⟨_, _, accepted⟩
  · simp only [refused]
    exact List.prefix_rfl
  · simp only [accepted, accepted_change]
    rcases side.eq_or_eq_other subject with rfl | rfl
    · rw [party_setParty_self]
      exact List.prefix_append _ _
    · exact ⟨[], by rw [party_setParty_other, List.append_nil]⟩

/-- Where the party that acts has nothing taken back, nobody has. -/
theorem Becomes.accepted {after : Pair} {party : Party} {sending receiving : Course}
    (becomes : pair.Becomes side after party sending receiving)
    (kept : party.accepted = (pair.party side).accepted) (subject : Side) :
    (after.party subject).accepted = (pair.party subject).accepted := by
  rcases side.eq_or_eq_other subject with rfl | rfl
  · rw [becomes.own, kept]
  · rw [becomes.peer]

theorem accepted_attach (pair : Pair) (side : Side) (stream : StreamId) (subject : Side) :
    ((pair.attach side stream).party subject).accepted = (pair.party subject).accepted := by
  rcases attach_cases pair side stream with same | ⟨_, attached⟩
  · rw [same]
  · exact attached.accepted (by rfl) subject

theorem accepted_attachInVain (pair : Pair) (side : Side) (stream : StreamId) (subject : Side) :
    ((pair.attachInVain side stream).party subject).accepted = (pair.party subject).accepted := by
  rcases attachInVain_cases pair side stream with same | attached
  · rw [same]
  · exact attached.accepted (by rfl) subject

theorem accepted_bind (pair : Pair) (side : Side) (subject : Side) :
    ((pair.bind side).party subject).accepted = (pair.party subject).accepted := by
  rcases bind_cases pair side with same | bound
  · rw [same]
  · exact bound.accepted (by rfl) subject

theorem accepted_hand (pair : Pair) (side : Side) (subject : Side) :
    ((pair.hand side).party subject).accepted = (pair.party subject).accepted := by
  rcases hand_cases pair side with ⟨_, same⟩ | ⟨id, body, rest, _, handed⟩
  · rw [same]
  · exact handed.accepted (by rfl) subject

theorem accepted_conclude (pair : Pair) (side : Side) (receipt : Receipt) (subject : Side) :
    ((pair.conclude side receipt).party subject).accepted = (pair.party subject).accepted := by
  cases busy : (pair.party side).busy with
  | none =>
    unfold Pair.conclude
    simp only [busy]
  | some id =>
    rw [conclude_eq pair side receipt busy, accepted_performAll]
    exact accepted_setParty (by rfl) subject

/-- Messages that were accepted stay accepted. -/
theorem Step.accepted {after : Pair} (step : Step pair after) (subject : Side) :
    (pair.party subject).accepted <+: (after.party subject).accepted := by
  have kept : ∀ {accepted : List Bytes}, accepted = (pair.party subject).accepted →
      (pair.party subject).accepted <+: accepted := fun same => same ▸ List.prefix_rfl
  cases step with
  | send side body => exact accepted_send pair side body subject
  | attach side stream => exact kept (accepted_attach ..)
  | attachInVain side stream => exact kept (accepted_attachInVain ..)
  | arrive => exact kept (accepted_change ..)
  | bind side => exact kept (accepted_bind ..)
  | hand side => exact kept (accepted_hand ..)
  | conclude side receipt => exact kept (accepted_conclude ..)
  | lose => exact kept (accepted_change ..)
  | close => exact kept (accepted_change ..)
  | cut => exact List.prefix_rfl

theorem WithinIds.of_step {after : Pair} (within : after.WithinIds) (step : Step pair after) :
    pair.WithinIds := fun side =>
  Nat.le_trans (step.accepted side).length_le (within side)

end Pair

end Courier
