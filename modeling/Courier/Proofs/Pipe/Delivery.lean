import Courier.Proofs.Pipe.Steps

/-!
# What two pipes promise

Whatever is lost on the way, whichever streams follow one another and in whatever
order everything happens, two pipes keep three promises:

* `handed_prefix_accepted`: what is handed to a receiver is at every moment a
  prefix of what was accepted for it.  Nothing is handed over twice, left out,
  swapped or changed.
* `reports_agree`: who waits for a message is told at most once, and what it is
  told is what the receiver did with this very message.
* `nothing_stuck`: on a stream that has lost nothing every message goes on, so
  that the tables are empty once nothing is in flight and nothing is worked on.

They are read off the invariant of `Courier.Proofs.Pipe.Steps`.
-/

namespace Courier

set_option autoImplicit false

/-- A receiver has refused with a reason, or has broken off, which counts as a refusal. -/
def Receipt.Refuses (receipt : Receipt) (reason : String) : Prop :=
  receipt = .refused reason ∨ receipt = .panicked ∧ reason = "receiver panicked"

theorem Receipt.refuses_of_verdict {receipt : Receipt} {reason : String}
    (refused : receipt.verdict = .error reason) : receipt.Refuses reason := by
  cases receipt with
  | accepted => cases refused
  | refused other => exact .inl (by cases refused; rfl)
  | panicked => exact .inr ⟨rfl, by cases refused; rfl⟩

/-- The packet finally answers a message, by itself or as one of several. -/
def Packet.Finishes (id : MessageId) : Packet → Prop
  | ackDelivered other => other = id
  | nack other _ => other = id
  | sync acks => ⟨.delivered, id⟩ ∈ acks
  | _ => False

theorem Packet.finishes_of_settled {packet : Packet} {id : MessageId} {verdict : Except String Unit}
    (said : .settled id verdict ∈ packet.answers) : packet.Finishes id := by
  cases packet with
  | ackDelivered other => exact (Answer.settled.inj (List.mem_singleton.mp said)).1.symm
  | nack other reason => exact (Answer.settled.inj (List.mem_singleton.mp said)).1.symm
  | sync acks =>
    obtain ⟨⟨state, other⟩, listed, same⟩ := List.mem_map.mp said
    cases state with
    | received => cases same
    | delivered =>
      obtain ⟨rfl, _⟩ := Answer.settled.inj same
      exact listed
  | ackReceived other => cases List.mem_singleton.mp said
  | data _ _ => cases said
  | ackOfNack _ => cases said

/-- A message that has arrived and has no receipt waits or is with the receiver. -/
theorem Course.Sound.pending {course : Course} (sound : course.Sound) {id : MessageId}
    (unfinished : course.receipts.length ≤ id.toNat) (arrived : id.toNat < course.received) :
    course.busy = some id ∨ ∃ body, (id, body) ∈ course.waiting := by
  by_cases handed : id.toNat < course.handed.length
  · left
    cases busy : course.busy with
    | none =>
      have := sound.idle busy
      omega
    | some current =>
      obtain ⟨number, next⟩ := sound.engaged current busy
      rw [MessageId.toNat_inj.mp (show current.toNat = id.toNat by omega)]
  · right
    have listed : id.toNat ∈ course.waiting.map fun message => message.1.toNat := by
      rw [sound.numbered, List.mem_range'_1]
      unfold Course.received at arrived
      omega
    obtain ⟨⟨other, body⟩, waiting, same⟩ := List.mem_map.mp listed
    exact ⟨body, MessageId.toNat_inj.mp same ▸ waiting⟩

namespace Pair

variable {pair : Pair} {settings : Side → PipeSettings}

/-! ## A run with a loss -/

/-- A message is lost with the first stream, sent again on the second one and refused. -/
def reconnected : Pair :=
  let sent := ((Pair.new fun _ => .standard).bind .b).send .a [1]
  let lost := (((sent.attach .a 1).cut 1 .a 0).attach .b 1).lose .a 1 none
  let resumed := (lost.attach .a 2).attach .b 2
  let arrived := resumed.arrive .b 2 2 ([Packet.sync [], .data .zero [1]].flatMap Packet.encode) []
  (arrived.hand .b).conclude .b (.refused "no")

/-- The refusal arrives, and that the message is released arrives as well. -/
def finished : Pair :=
  let told := reconnected.arrive .a 2 2
    ([Packet.sync [], .ackReceived .zero, .nack .zero "no"].flatMap Packet.encode) []
  told.arrive .b 2 2 (Packet.ackOfNack .zero).encode []

theorem reconnected_reachable : Reachable (fun _ => .standard) reconnected := by
  have sent : Reachable (fun _ => .standard)
      (((Pair.new fun _ => .standard).bind .b).send .a [1]) :=
    (Relation.ReflTransGen.refl.tail (.bind .b)).tail (.send .a [1])
  have lost := (((sent.tail (.attach .a 1 (by decide +kernel))).tail (.cut 1 .a 0)).tail
    (.attach .b 1 (by decide +kernel))).tail (.lose .a 1 none)
  have resumed := (lost.tail (.attach .a 2 (by decide +kernel))).tail
    (.attach .b 2 (by decide +kernel))
  have arrived := resumed.tail (.arrive .b 2 2
    ([Packet.sync [], .data .zero [1]].flatMap Packet.encode) [.sync [], .data .zero [1]] []
    (by decide +kernel) (by decide +kernel) (by decide +kernel))
  exact (arrived.tail (.hand .b (by decide +kernel) (by decide +kernel))).tail
    (.conclude .b (.refused "no"))

theorem finished_reachable : Reachable (fun _ => .standard) finished := by
  have told := reconnected_reachable.tail (.arrive .a 2 2
    ([Packet.sync [], .ackReceived .zero, .nack .zero "no"].flatMap Packet.encode)
    [.sync [], .ackReceived .zero, .nack .zero "no"] []
    (by decide +kernel) (by decide +kernel) (by decide +kernel))
  exact told.tail (.arrive .b 2 2 (Packet.ackOfNack .zero).encode [.ackOfNack .zero] []
    (by decide +kernel) (by decide +kernel) (by decide +kernel))

theorem reconnected_withinIds : reconnected.WithinIds := by
  intro side
  cases side <;> decide +kernel

theorem finished_withinIds : finished.WithinIds := by
  intro side
  cases side <;> decide +kernel

/-! ## In order, exactly once -/

/-- **What is handed to a receiver is at every moment a prefix of what the other party's pipe has
accepted**, in both directions at once. -/
theorem handed_prefix_accepted (reachable : Reachable settings pair) (within : pair.WithinIds)
    (side : Side) : (pair.party side.other).handed <+: (pair.party side).accepted := by
  have sound := (reachable.valid within).sound side
  exact sound.handed_isPrefix

/-- The message that was lost once has been handed over once. -/
theorem handed_prefix_accepted_reconnected :
    (reconnected.party .b).handed = [[1]] ∧
      (reconnected.party .b).handed <+: (reconnected.party .a).accepted :=
  ⟨by decide +kernel, handed_prefix_accepted reconnected_reachable reconnected_withinIds .a⟩

/-! ## Agreement -/

/-- What the party of a side is told under a ticket is what the other one's receiver did with the
message of this ticket. -/
def Agrees (pair : Pair) (side : Side) (ticket : Ticket) : Outcome → Prop
  | .ok _ => ∃ body, (pair.party side).accepted[ticket]? = some body ∧
      (pair.party side.other).handed[ticket]? = some body ∧
      (pair.party side.other).receipts[ticket]? = some .accepted
  | .error (.rejected id reason) => id.toNat = ticket ∧
      ∃ body receipt, (pair.party side).accepted[ticket]? = some body ∧
        (pair.party side.other).handed[ticket]? = some body ∧
        (pair.party side.other).receipts[ticket]? = some receipt ∧ receipt.Refuses reason
  | .error .closed => (pair.party side).pipe.closed = true
  | .error _ => False

/-- **Both parties agree on what became of a message.**  Nobody is told twice; what is told is what
the receiver did with the very message, and that the pipe is closed is told only if it is. -/
theorem reports_agree (reachable : Reachable settings pair) (within : pair.WithinIds)
    (side : Side) :
    ((pair.party side).reports.map Prod.fst).Nodup ∧
      ∀ ticket outcome, (ticket, outcome) ∈ (pair.party side).reports →
        pair.Agrees side ticket outcome := by
  have sound := (reachable.valid within).sound side
  refine ⟨sound.once, fun ticket outcome reported => ?_⟩
  have told := sound.truthful ticket outcome reported
  cases outcome with
  | ok _ =>
    obtain ⟨receipt, found, verdict⟩ := told
    obtain ⟨body, accepted, handed⟩ := sound.handed_of_receipt found
    cases receipt with
    | accepted => exact ⟨body, accepted, handed, found⟩
    | refused _ => cases verdict
    | panicked => cases verdict
  | error error =>
    cases error with
    | rejected id reason =>
      obtain ⟨number, receipt, found, verdict⟩ := told
      obtain ⟨body, accepted, handed⟩ := sound.handed_of_receipt found
      exact ⟨number, body, receipt, accepted, handed, found, Receipt.refuses_of_verdict verdict⟩
    | closed => simpa [Course.Told, course, Agrees] using told
    | _ => exact told

/-- The refusal is what the receiver said. -/
theorem reports_agree_finished :
    (0, .error (.rejected .zero "no")) ∈ (finished.party .a).reports ∧
      finished.Agrees .a 0 (.error (.rejected .zero "no")) := by
  have reported : (0, .error (.rejected .zero "no")) ∈ (finished.party .a).reports := by
    decide +kernel
  exact ⟨reported, (reports_agree finished_reachable finished_withinIds .a).2 _ _ reported⟩

/-! ## Nothing is stuck -/

/-- Both pipes are open, and a stream that has lost nothing is in use at both ends. -/
structure Working (pair : Pair) (stream : StreamId) : Prop where
  isOpen : ∀ side, (pair.party side).pipe.closed = false
  inUse : ∀ side, (pair.party side).pipe.stream? = some stream
  whole : ∀ side, (pair.lane stream side).whole = true

/-- A message of the party of a side is in flight to the other one, or there and not yet finished,
or its final answer is in flight. -/
def Underway (pair : Pair) (stream : StreamId) (side : Side) (id : MessageId) : Prop :=
  (∃ body, Packet.data id body ∈ (pair.lane stream side).inFlight) ∨
    ((id, Disposition.received) ∈ (pair.party side.other).pipe.exchange.inbound ∧
      ((pair.party side.other).busy = some id ∨
        ∃ body, (id, body) ∈ (pair.party side.other).pipe.waiting)) ∨
    ∃ packet ∈ (pair.lane stream side.other).inFlight, packet.Finishes id

/-- Nothing is in flight on a stream, and no message waits or is with a receiver. -/
structure Quiet (pair : Pair) (stream : StreamId) : Prop where
  inFlight : ∀ side, (pair.lane stream side).inFlight = []
  waiting : ∀ side, (pair.party side).pipe.waiting = []
  busy : ∀ side, (pair.party side).busy = none

/-- What the final answers say is in the packets in flight. -/
theorem exists_finishes {stream : StreamId} {side : Side} {id : MessageId}
    {verdict : Except String Unit}
    (said : .settled id verdict ∈ ((pair.course side).back stream).inFlight) :
    ∃ packet ∈ (pair.lane stream side.other).inFlight, packet.Finishes id := by
  obtain ⟨packet, inFlight, said⟩ := List.mem_flatMap.mp said
  exact ⟨packet, inFlight, packet.finishes_of_settled said⟩

/-- What has been finished and not forgotten is being answered or released. -/
theorem answered_of_finished (valid : pair.Valid) {stream : StreamId}
    (working : pair.Working stream) (side : Side) {id : MessageId}
    (finished : id.toNat < (pair.course side).receipts.length)
    (known : (pair.course side).Knows id) :
    (∃ packet ∈ (pair.lane stream side.other).inFlight, packet.Finishes id) ∨
      Packet.ackOfNack id ∈ (pair.lane stream side).inFlight := by
  have receiving : (pair.course side).receiverStream = some stream := working.inUse side.other
  have hearing : (pair.course side).Hearing stream :=
    .inr ⟨working.inUse side, working.whole side⟩
  rcases (valid.sound side).answered stream receiving (working.whole side.other) hearing id finished
    known with ⟨verdict, said⟩ | released
  · exact .inl (exists_finishes said)
  · obtain ⟨packet, inFlight, said⟩ := List.mem_flatMap.mp released
    cases packet with
    | ackOfNack other =>
      obtain rfl := Notice.release.inj (List.mem_singleton.mp said)
      exact .inr inFlight
    | data _ _ => cases List.mem_singleton.mp said
    | _ => cases said

/-- Each message without a final answer is underway. -/
theorem underway_of_outbound (valid : pair.Valid) {stream : StreamId}
    (working : pair.Working stream) (side : Side) {entry : Outbound}
    (listed : entry ∈ (pair.party side).pipe.exchange.outbound) :
    pair.Underway stream side entry.id := by
  have sound := valid.sound side
  have isOpen : (pair.course side).receiverOpen = true := by
    simp [course, working.isOpen side.other]
  have ahead := (sound.newestReceiver stream (working.inUse side.other)).2
  have holds : (pair.course side).Holds entry.id := ⟨entry, listed, rfl⟩
  by_cases arrived : entry.id.toNat < (pair.course side).received
  · by_cases finished : entry.id.toNat < (pair.course side).receipts.length
    · by_cases known : (pair.course side).Knows entry.id
      · rcases answered_of_finished valid working side finished known with answering | released
        · exact .inr (.inr answering)
        · have said : .release entry.id ∈ ((pair.course side).forth stream).inFlight :=
            List.mem_flatMap.mpr ⟨_, released, List.mem_singleton_self _⟩
          exact absurd holds (sound.released stream entry.id said).2
      · exact absurd holds (sound.gone isOpen entry.id arrived known).1
    · have unfinished := Nat.le_of_not_lt finished
      exact .inr (.inl ⟨sound.held isOpen entry.id unfinished arrived,
        sound.pending unfinished arrived⟩)
  · obtain ⟨body, said⟩ := sound.complete isOpen stream (working.inUse side) (working.whole side)
      ahead entry.id (Nat.le_of_not_lt arrived) (sound.place entry listed).2
    obtain ⟨packet, inFlight, said⟩ := List.mem_flatMap.mp said
    cases packet with
    | data id content =>
      obtain ⟨rfl, rfl⟩ := Notice.data.inj (List.mem_singleton.mp said)
      exact .inl ⟨body, inFlight⟩
    | ackOfNack _ => cases List.mem_singleton.mp said
    | _ => cases said

/-- A message that the receiver knows and that does not count as received has a receipt. -/
theorem finished_of_inbound (valid : pair.Valid) (side : Side) {id : MessageId}
    {disposition : Disposition}
    (known : (id, disposition) ∈ (pair.party side.other).pipe.exchange.inbound)
    (finished : disposition ≠ .received) : id.toNat < (pair.course side).receipts.length := by
  by_contra unfinished
  have standing := ((valid.sound side).known id disposition known).2
  exact finished (standing.trans (Course.standing_of_le (Nat.le_of_not_lt unfinished)))

/-- **On a stream that has lost nothing no message is stuck**: each one without a final answer is
underway, and each one that is finished is being answered or released.  So when nothing is in flight
and nothing is worked on, all tables are empty. -/
theorem nothing_stuck (reachable : Reachable settings pair) (within : pair.WithinIds)
    {stream : StreamId} (working : pair.Working stream) :
    (∀ side, ∀ entry ∈ (pair.party side).pipe.exchange.outbound,
      pair.Underway stream side entry.id) ∧
    (∀ side, ∀ id disposition,
      (id, disposition) ∈ (pair.party side.other).pipe.exchange.inbound → disposition ≠ .received →
      (∃ packet ∈ (pair.lane stream side.other).inFlight, packet.Finishes id) ∨
        Packet.ackOfNack id ∈ (pair.lane stream side).inFlight) ∧
    (pair.Quiet stream → ∀ side,
      (pair.party side).pipe.inFlight = 0 ∧ (pair.party side).pipe.inboundPending = 0) := by
  have valid := reachable.valid within
  have answering : ∀ side, ∀ id disposition,
      (id, disposition) ∈ (pair.party side.other).pipe.exchange.inbound → disposition ≠ .received →
      (∃ packet ∈ (pair.lane stream side.other).inFlight, packet.Finishes id) ∨
        Packet.ackOfNack id ∈ (pair.lane stream side).inFlight :=
    fun side id disposition known finished => answered_of_finished valid working side
      (finished_of_inbound valid side known finished) ⟨disposition, known⟩
  refine ⟨fun side entry listed => underway_of_outbound valid working side listed, answering, ?_⟩
  intro quiet side
  refine ⟨List.length_eq_zero_iff.mpr (List.eq_nil_iff_forall_not_mem.mpr ?_),
    List.length_eq_zero_iff.mpr (List.eq_nil_iff_forall_not_mem.mpr ?_)⟩
  · intro entry listed
    rcases underway_of_outbound valid working side listed with
      ⟨_, inFlight⟩ | ⟨_, busy | ⟨_, waiting⟩⟩ | ⟨_, inFlight, _⟩
    · simp [quiet.inFlight side] at inFlight
    · simp [quiet.busy side.other] at busy
    · simp [quiet.waiting side.other] at waiting
    · simp [quiet.inFlight side.other] at inFlight
  · rintro ⟨id, disposition⟩ known
    have sound := valid.sound side.other
    have known' : (id, disposition) ∈ (pair.course side.other).inbound := by
      simpa [course] using known
    by_cases finished : disposition = .received
    · subst finished
      rcases sound.toReception.toAnswer known' with ⟨_, unfinished⟩ | ⟨_, same, _⟩
      · rcases sound.pending unfinished (sound.known id _ known').1 with busy | ⟨_, waiting⟩
        · have idle : (pair.course side.other).busy = none := by simp [course, quiet.busy]
          simp [idle] at busy
        · have nothing : (pair.course side.other).waiting = [] := by simp [course, quiet.waiting]
          simp [nothing] at waiting
      · cases same
    · rcases answering side.other id disposition (by simpa using known) finished with
        ⟨_, inFlight, _⟩ | inFlight
      · simp [quiet.inFlight] at inFlight
      · simp [quiet.inFlight] at inFlight

theorem finished_working : finished.Working 2 where
  isOpen side := by cases side <;> decide +kernel
  inUse side := by cases side <;> decide +kernel
  whole side := by cases side <;> decide +kernel

theorem finished_quiet : finished.Quiet 2 where
  inFlight side := by cases side <;> decide +kernel
  waiting side := by cases side <;> decide +kernel
  busy side := by cases side <;> decide +kernel

/-- After the first stream was lost nothing is left in any table. -/
theorem nothing_stuck_finished :
    finished.Working 2 ∧ finished.Quiet 2 ∧ (finished.party .a).pipe.inFlight = 0 ∧
      (finished.party .b).pipe.inboundPending = 0 := by
  obtain ⟨_, _, empty⟩ := nothing_stuck finished_reachable finished_withinIds finished_working
  exact ⟨finished_working, finished_quiet, (empty finished_quiet .a).1, (empty finished_quiet .b).2⟩

end Pair

end Courier
