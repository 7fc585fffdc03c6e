import Courier.Proofs.Pipe.Joining
import Courier.Proofs.Pipe.Receiving
import Courier.Proofs.Pipe.Sending

/-!
# One course while streams are being attached

While an attach is under way, what was taken down for its stream counts as said:
it stands behind everything that is in flight there, whatever is written in the
meantime.  A passage is a course together with what both parties have still to
say in this way, and with the two histories of a `Joint` that concern it.

What carries over from the courses of atomic attaches is that a message that was
released is not sent again, neither behind its release on the same stream nor on
a later one.  The one exception are messages that were overtaken: their release
is written in front of what was taken down before.  So a message that was not
overtaken cannot arrive again after the receiver has forgotten it, which is what
`Passage.Guarded.gone` says.
-/

namespace Courier

set_option autoImplicit false

/-- A notice that sends a message stands behind one that releases the same message. -/
def Notice.Revives (id : MessageId) (earlier later : Notice) : Prop :=
  earlier = .release id ∧ ∃ body, later = .data id body

structure Passage where
  course : Course
  /-- What the sender has taken down for a stream and not written yet. -/
  promised : StreamId → List Notice
  /-- What the receiver has taken down for a stream and not written yet. -/
  announced : StreamId → List Answer
  /-- The ids of the messages that were handed over, in order. -/
  handed : List MessageId
  overtaken : List MessageId

namespace Passage

variable {passage : Passage}

/-- What the receiver sees of a stream if nothing more is written and nothing is lost. -/
def line (passage : Passage) (stream : StreamId) : List Notice :=
  (passage.course.forth stream).inFlight ++ passage.promised stream

/-- The ids of the messages that have arrived for the first time, once for each time that the
receiver took one for new. -/
def arrived (passage : Passage) : List MessageId :=
  passage.handed ++ passage.course.waiting.map Prod.fst

/-- The receiver has given an answer that has not reached the sender. -/
def Answered (passage : Passage) (answer : Answer) : Prop :=
  ∃ stream, answer ∈ (passage.course.back stream).inFlight ∨ answer ∈ passage.announced stream

/-- The passage with another course. -/
def on (passage : Passage) (course : Course) : Passage := { passage with course }

/-- A stream is put in use at the sender, and every message whose body it has is to be sent there.
-/
def senderInstall (passage : Passage) (stream : StreamId) : Passage :=
  { passage with
    course := { passage.course with
      senderStream := some stream
      senderStreams := passage.course.senderStreams ++ [stream] }
    promised := Function.update passage.promised stream
      (passage.promised stream ++ passage.course.unconfirmed) }

/-- A stream is put in use at the receiver, and its answers are to be given there. -/
def receiverInstall (passage : Passage) (stream : StreamId) (answers : List Answer) : Passage :=
  { passage with
    course := { passage.course with
      receiverStream := some stream
      receiverStreams := passage.course.receiverStreams ++ [stream] }
    announced := Function.update passage.announced stream
      (passage.announced stream ++ answers) }

/-- The next message that waits is handed over. -/
def hand (passage : Passage) (id : MessageId) (body : Bytes) (rest : List (MessageId × Bytes)) :
    Passage :=
  { passage with
    course := passage.course.hand id body rest
    handed := passage.handed ++ [id] }

/-! ## What holds of a passage at every moment -/

/-- The sender and what it says. -/
structure Outgoing (passage : Passage) : Prop where
  place : ∀ entry ∈ passage.course.outbound, entry.id.toNat < passage.course.accepted.length
  body : ∀ entry ∈ passage.course.outbound, ∀ body, entry.body = some body →
    passage.course.accepted[entry.id.toNat]? = some body
  newest : ∀ stream, passage.course.senderStream = some stream →
    stream ∈ passage.course.senderStreams ∧
      ∀ earlier ∈ passage.course.senderStreams, earlier ≤ stream
  written : ∀ stream, stream ∉ passage.course.senderStreams → passage.line stream = []
  carried : ∀ stream id body, Notice.data id body ∈ passage.line stream →
    passage.course.accepted[id.toNat]? = some body
  released : ∀ stream id, Notice.release id ∈ passage.line stream →
    id.toNat < passage.course.accepted.length ∧ ¬ passage.course.Holds id
  /-- A message that is released is not sent again after that unless it was overtaken. -/
  final : ∀ stream, (passage.line stream).Pairwise fun earlier later =>
    ∀ id, Notice.Revives id earlier later → id ∈ passage.overtaken
  /-- Nor is it sent on a later stream. -/
  finalAcross : ∀ stream later id body, stream < later →
    Notice.release id ∈ passage.line stream → Notice.data id body ∉ passage.line later
  /-- What is still to be written on the stream in use sends no message that has its final answer,
  unless this message was overtaken. -/
  pending : ∀ stream, passage.course.senderStream = some stream → ∀ id body,
    Notice.data id body ∈ passage.promised stream →
    passage.course.Holds id ∨ id ∈ passage.overtaken

/-- The receiver and what it says. -/
structure Incoming (passage : Passage) : Prop where
  answered : ∀ answer, passage.Answered answer →
    answer.id.toNat < passage.course.accepted.length
  known : ∀ id, passage.course.Knows id → id ∈ passage.arrived
  busy : ∀ id, passage.course.busy = some id → id ∈ passage.handed
  waiting : ∀ id body, (id, body) ∈ passage.course.waiting →
    passage.course.accepted[id.toNat]? = some body
  handed : (passage.handed.map fun id => passage.course.accepted[id.toNat]?) =
    passage.course.handed.map some
  /-- A message that was not overtaken was taken for new once at most. -/
  once : ∀ id, id ∉ passage.overtaken → passage.arrived.count id ≤ 1

/-- What holds of a passage at every moment. -/
structure Guarded (passage : Passage) : Prop extends Outgoing passage, Incoming passage where
  /-- A message that the receiver has forgotten does not reach it again, unless it was overtaken. -/
  gone : passage.course.receiverOpen = true → ∀ id ∈ passage.arrived, id ∉ passage.overtaken →
    ¬ passage.course.Knows id → ¬ passage.course.Holds id ∧
      ∀ stream, passage.course.Ahead stream → ∀ body, .data id body ∉ passage.line stream

/-- What arrived was accepted. -/
theorem Incoming.arrived_lt (incoming : passage.Incoming) {id : MessageId}
    (arrived : id ∈ passage.arrived) : id.toNat < passage.course.accepted.length := by
  rcases List.mem_append.mp arrived with handed | waiting
  · have found : passage.course.accepted[id.toNat]? ∈ passage.course.handed.map some :=
      incoming.handed ▸ List.mem_map_of_mem handed
    obtain ⟨body, _, same⟩ := List.mem_map.mp found
    exact (List.getElem?_eq_some_iff.mp same.symm).1
  · obtain ⟨⟨other, body⟩, listed, rfl⟩ := List.mem_map.mp waiting
    exact (List.getElem?_eq_some_iff.mp (incoming.waiting other body listed)).1

/-! ## Less is said -/

/-- Where less is said to the receiver, what was said of all of it still holds. -/
theorem Guarded.thin (guarded : passage.Guarded) {forth : StreamId → Lane Notice}
    {promised : StreamId → List Notice}
    (fewer : ∀ stream, ((forth stream).inFlight ++ promised stream).Sublist (passage.line stream))
    (kept : ∀ stream, promised stream ⊆ passage.promised stream) :
    Guarded { passage with course := { passage.course with forth }, promised } where
  toOutgoing :=
    { place := guarded.place
      body := guarded.body
      newest := guarded.newest
      written := fun stream unknown => by
        have empty := fewer stream
        rw [guarded.written stream unknown] at empty
        exact List.sublist_nil.mp empty
      carried := fun stream id body said =>
        guarded.carried stream id body ((fewer stream).subset said)
      released := fun stream id said => guarded.released stream id ((fewer stream).subset said)
      final := fun stream => (guarded.final stream).sublist (fewer stream)
      finalAcross := fun stream later id body order released sent =>
        guarded.finalAcross stream later id body order ((fewer stream).subset released)
          ((fewer later).subset sent)
      pending := fun stream inUse id body promised =>
        guarded.pending stream inUse id body (kept stream promised) }
  toIncoming := { guarded.toIncoming with }
  gone isOpen id arrived late unknown := by
    obtain ⟨given, absent⟩ := guarded.gone isOpen id arrived late unknown
    exact ⟨given, fun stream ahead body said =>
      absent stream ahead body ((fewer stream).subset said)⟩

/-- Where packets arrive from or are lost on a lane, less is said to the receiver. -/
theorem Guarded.thinForth (guarded : passage.Guarded) {stream : StreamId} (lane : Lane Notice)
    (fewer : lane.inFlight.Sublist (passage.course.forth stream).inFlight) :
    (passage.on { passage.course with
      forth := Function.update passage.course.forth stream lane }).Guarded :=
  guarded.thin
    (fun other => (Lane.sublist_update lane fewer other).append (List.Sublist.refl _))
    fun _ => List.Subset.refl _

/-- What is said to the sender does not concern the rest, as long as it is about messages that were
accepted. -/
theorem Guarded.reanswer (guarded : passage.Guarded) {back : StreamId → Lane Answer}
    {announced : StreamId → List Answer}
    (about : ∀ stream answer, answer ∈ (back stream).inFlight ∨ answer ∈ announced stream →
      answer.id.toNat < passage.course.accepted.length) :
    Guarded { passage with course := { passage.course with back }, announced } where
  toOutgoing := { guarded.toOutgoing with }
  toIncoming :=
    { guarded.toIncoming with answered := fun answer ⟨stream, said⟩ => about stream answer said }
  gone := guarded.gone

/-- Where packets arrive from or are lost on a lane, less is said to the sender. -/
theorem Guarded.thinBack (guarded : passage.Guarded) {stream : StreamId} (lane : Lane Answer)
    (fewer : lane.inFlight.Sublist (passage.course.back stream).inFlight) :
    (passage.on { passage.course with
      back := Function.update passage.course.back stream lane }).Guarded := by
  refine guarded.reanswer fun other answer said => guarded.answered answer ⟨other, ?_⟩
  exact said.imp_left fun inFlight => (Lane.sublist_update lane fewer other).subset inFlight

/-- A message counts as overtaken from some moment on. -/
theorem Guarded.overtake (guarded : passage.Guarded) (more : List MessageId) :
    Guarded { passage with overtaken := passage.overtaken ++ more } where
  toOutgoing :=
    { guarded.toOutgoing with
      final := fun stream => (guarded.final stream).imp fun revived id revives =>
        List.mem_append_left _ (revived id revives)
      pending := fun stream inUse id body promised =>
        (guarded.pending stream inUse id body promised).imp_right (List.mem_append_left _) }
  toIncoming :=
    { guarded.toIncoming with
      once := fun id late =>
        guarded.once id fun overtaken => late (List.mem_append_left _ overtaken) }
  gone isOpen id arrived late :=
    guarded.gone isOpen id arrived fun overtaken => late (List.mem_append_left _ overtaken)

/-! ## Changes at the sender -/

theorem mem_line_put {written : Option StreamId} {items : List Notice} {stream : StreamId}
    {notice : Notice}
    (said : notice ∈ (passage.on { passage.course with
      forth := Lane.put passage.course.forth written items }).line stream) :
    notice ∈ passage.line stream ∨ (written = some stream ∧ notice ∈ items) := by
  rcases List.mem_append.mp said with inFlight | promised
  · exact (Lane.mem_put inFlight).imp_left (List.mem_append_left _)
  · exact .inl (List.mem_append_right _ promised)

/-- The sender writes one notice on its stream.  If it sends a message, this message is new; if it
releases one, this message has its final answer and is not still to be sent. -/
theorem Guarded.put (guarded : passage.Guarded) (notice : Notice)
    (data : ∀ id body, notice = .data id body →
      passage.course.accepted[id.toNat]? = some body ∧ id ∉ passage.arrived ∧
        ∀ stream, .release id ∉ passage.line stream)
    (release : ∀ id, notice = .release id →
      id.toNat < passage.course.accepted.length ∧ ¬ passage.course.Holds id ∧
        ∀ stream, passage.course.senderStream = some stream → ∀ body,
          .data id body ∈ passage.promised stream → id ∈ passage.overtaken) :
    (passage.on { passage.course with
      forth := Lane.put passage.course.forth passage.course.senderStream [notice] }).Guarded where
  toOutgoing :=
    { place := guarded.place
      body := guarded.body
      newest := guarded.newest
      written := fun stream unknown => by
        refine List.eq_nil_iff_forall_not_mem.mpr fun other said => ?_
        rcases mem_line_put said with before | ⟨inUse, _⟩
        · simp [guarded.written stream unknown] at before
        · exact unknown (guarded.newest stream inUse).1
      carried := fun stream id body said => by
        rcases mem_line_put said with before | ⟨_, new⟩
        · exact guarded.carried stream id body before
        · exact (data id body (List.mem_singleton.mp new).symm).1
      released := fun stream id said => by
        rcases mem_line_put said with before | ⟨_, new⟩
        · exact guarded.released stream id before
        · obtain ⟨bound, given, _⟩ := release id (List.mem_singleton.mp new).symm
          exact ⟨bound, given⟩
      final := fun stream => by
        rcases Lane.put_inFlight passage.course.forth passage.course.senderStream [notice]
          stream with same | ⟨inUse, _, longer⟩
        · simp only [line, on]
          rw [same]
          exact guarded.final stream
        · have before := guarded.final stream
          simp only [line, on]
          rw [longer, List.append_assoc, List.pairwise_append]
          rw [line, List.pairwise_append] at before
          refine ⟨before.1, ?_, fun earlier inFlight later follows => ?_⟩
          · -- What follows the new notice is what was taken down before.
            refine List.pairwise_cons.mpr ⟨fun later promised id revives => ?_, before.2.1⟩
            obtain ⟨rfl, body, rfl⟩ := revives
            exact (release id rfl).2.2 stream inUse body promised
          · rcases List.mem_append.mp follows with new | promised
            · rintro id ⟨rfl, body, rfl⟩
              refine absurd (List.mem_append_left _ inFlight)
                ((data id body (List.mem_singleton.mp new).symm).2.2 stream)
            · exact before.2.2 earlier inFlight later promised
      finalAcross := fun stream later id body order released sent => by
        rcases mem_line_put sent with sentBefore | ⟨_, new⟩
        · rcases mem_line_put released with releasedBefore | ⟨inUse, _⟩
          · exact guarded.finalAcross stream later id body order releasedBefore sentBefore
          · -- Nothing is said on a stream after the one in use.
            have unknown : later ∉ passage.course.senderStreams := fun listed =>
              Nat.not_le_of_lt order ((guarded.newest stream inUse).2 later listed)
            simp [guarded.written later unknown] at sentBefore
        · obtain rfl := List.mem_singleton.mp new
          rcases mem_line_put released with releasedBefore | ⟨_, same⟩
          · exact (data id body rfl).2.2 stream releasedBefore
          · cases List.mem_singleton.mp same
      pending := guarded.pending }
  toIncoming := { guarded.toIncoming with }
  gone isOpen id arrived late unknown := by
    obtain ⟨given, absent⟩ := guarded.gone isOpen id arrived late unknown
    refine ⟨given, fun stream ahead body said => ?_⟩
    rcases mem_line_put said with before | ⟨_, new⟩
    · exact absent stream ahead body before
    · exact (data id body (List.mem_singleton.mp new).symm).2.1 arrived

/-- A message is entered in the sender's table, and not written yet. -/
theorem Guarded.accept (guarded : passage.Guarded) {entry : Outbound} (body : Bytes)
    (number : entry.id.toNat = passage.course.accepted.length) (kept : entry.body = some body) :
    (passage.on { passage.course with
      accepted := passage.course.accepted ++ [body]
      outbound := passage.course.outbound ++ [entry] }).Guarded := by
  have longer : ∀ {place : Nat} {content : Bytes},
      passage.course.accepted[place]? = some content →
        (passage.course.accepted ++ [body])[place]? = some content := by
    intro place content found
    rwa [List.getElem?_append_left (List.getElem?_eq_some_iff.mp found).1]
  have holds : ∀ {id : MessageId}, id.toNat < passage.course.accepted.length →
      (∃ held ∈ passage.course.outbound ++ [entry], held.id = id) → passage.course.Holds id := by
    rintro id bound ⟨held, listed, rfl⟩
    rcases List.mem_append.mp listed with before | new
    · exact ⟨held, before, rfl⟩
    · obtain rfl := List.mem_singleton.mp new
      exact absurd bound (by omega)
  constructor
  case toOutgoing =>
    refine { newest := guarded.newest, written := guarded.written, final := guarded.final,
             finalAcross := guarded.finalAcross, place := ?_, body := ?_, carried := ?_,
             released := ?_, pending := ?_ }
    · intro held listed
      simp only [on, List.length_append, List.length_singleton]
      rcases List.mem_append.mp listed with before | new
      · exact Nat.lt_succ_of_lt (guarded.place held before)
      · obtain rfl := List.mem_singleton.mp new
        omega
    · intro held listed content found
      rcases List.mem_append.mp listed with before | new
      · exact longer (guarded.body held before content found)
      · obtain rfl := List.mem_singleton.mp new
        obtain rfl := Option.some.inj (kept.symm.trans found)
        simp [on, number]
    · exact fun stream id content said => longer (guarded.carried stream id content said)
    · intro stream id said
      obtain ⟨bound, given⟩ := guarded.released stream id said
      exact ⟨by simpa [on] using Nat.lt_succ_of_lt bound, fun held => given (holds bound held)⟩
    · intro stream inUse id content promised
      refine (guarded.pending stream inUse id content promised).imp_left ?_
      rintro ⟨held, listed, same⟩
      exact ⟨held, List.mem_append_left _ listed, same⟩
  case toIncoming =>
    refine { known := guarded.known, busy := guarded.busy, once := guarded.once,
             answered := ?_, waiting := ?_, handed := ?_ }
    · intro answer said
      simpa [on] using Nat.lt_succ_of_lt (guarded.answered answer said)
    · exact fun id content waiting => longer (guarded.waiting id content waiting)
    · refine (List.map_congr_left fun id handed => ?_).trans guarded.handed
      exact List.getElem?_append_left (guarded.arrived_lt (List.mem_append_left _ handed))
  case gone =>
    intro isOpen id arrived late unknown
    obtain ⟨given, absent⟩ := guarded.gone isOpen id arrived late unknown
    exact ⟨fun held => given (holds (guarded.arrived_lt arrived) held), absent⟩

/-- A message is accepted and written on the sender's stream. -/
theorem Guarded.enter (guarded : passage.Guarded) {id : MessageId} (body : Bytes)
    (number : id.toNat = passage.course.accepted.length) :
    (passage.on (passage.course.enter id body)).Guarded := by
  let entry : Outbound :=
    ⟨id, passage.course.accepted.length, some body, passage.course.accepted.length⟩
  have entered := guarded.accept body (show entry.id.toNat = _ from number) rfl
  refine entered.put (.data id body) ?_ fun other same => by cases same
  rintro _ _ ⟨⟩
  refine ⟨by simp [on, number], fun arrived => ?_, fun stream released => ?_⟩
  · exact Nat.lt_irrefl _ (number ▸ guarded.arrived_lt arrived)
  · exact Nat.lt_irrefl _ (number ▸ (guarded.released stream id released).1)

/-- The sender's table loses entries or bodies.  A message that leaves it and is still to be sent on
the stream in use was overtaken. -/
theorem Guarded.settle (guarded : passage.Guarded) {outbound : List Outbound}
    (reports : List (Ticket × Outcome))
    (kept : ∀ entry ∈ outbound, ∃ before ∈ passage.course.outbound, entry.id = before.id ∧
      ∀ body, entry.body = some body → before.body = some body)
    (late : ∀ stream, passage.course.senderStream = some stream → ∀ id body,
      .data id body ∈ passage.promised stream → passage.course.Holds id →
      (∃ entry ∈ outbound, entry.id = id) ∨ id ∈ passage.overtaken) :
    (passage.on { passage.course with outbound, reports }).Guarded := by
  have holds : ∀ {id : MessageId}, (∃ entry ∈ outbound, entry.id = id) →
      passage.course.Holds id := by
    rintro _ ⟨entry, listed, rfl⟩
    obtain ⟨before, held, same, _⟩ := kept entry listed
    exact ⟨before, held, same.symm⟩
  constructor
  case toOutgoing =>
    refine { newest := guarded.newest, written := guarded.written, final := guarded.final,
             finalAcross := guarded.finalAcross, carried := guarded.carried, place := ?_,
             body := ?_, released := ?_, pending := ?_ }
    · intro entry listed
      obtain ⟨before, held, same, _⟩ := kept entry listed
      exact same ▸ guarded.place before held
    · intro entry listed body found
      obtain ⟨before, held, same, content⟩ := kept entry listed
      exact same ▸ guarded.body before held body (content body found)
    · intro stream id said
      obtain ⟨bound, given⟩ := guarded.released stream id said
      exact ⟨bound, fun held => given (holds held)⟩
    · intro stream inUse id body promised
      rcases guarded.pending stream inUse id body promised with held | overtaken
      · exact late stream inUse id body promised held
      · exact .inr overtaken
  case toIncoming => exact { guarded.toIncoming with }
  case gone =>
    intro isOpen id arrived early unknown
    obtain ⟨given, absent⟩ := guarded.gone isOpen id arrived early unknown
    exact ⟨fun held => given (holds held), absent⟩

/-- The next answer reaches the sender.  If it is the final one to a message that is still to be
sent on the stream in use, then this message was overtaken. -/
theorem Guarded.hear (guarded : passage.Guarded) {stream : StreamId} {answer : Answer}
    {rest : List Answer} (front : (passage.course.back stream).inFlight = answer :: rest)
    (late : ∀ id verdict, answer = .settled id verdict → ∀ current,
      passage.course.senderStream = some current → ∀ body,
      .data id body ∈ passage.promised current → id ∈ passage.overtaken) :
    (passage.on (passage.course.hear stream answer)).Guarded := by
  have bound : answer.id.toNat < passage.course.accepted.length :=
    guarded.answered answer ⟨stream, .inl (by simp [front])⟩
  have settled : (passage.on { passage.course with
      outbound := answer.settle passage.course.outbound
      reports := passage.course.reports ++ answer.reports passage.course.outbound }).Guarded := by
    refine guarded.settle _ (fun entry left => ?_) fun current inUse id body promised held => ?_
    · rcases Course.mem_settle left with listed | ⟨before, listed, _, rfl⟩
      · exact ⟨entry, listed, rfl, fun _ content => content⟩
      · exact ⟨before, listed, rfl, fun _ content => by cases content⟩
    · by_cases final : ∃ verdict, answer = .settled id verdict
      · obtain ⟨verdict, same⟩ := final
        exact .inr (late id verdict same current inUse body promised)
      · have left : (passage.course.hear stream answer).Holds id :=
          Course.holds_hear.mpr ⟨held, not_exists.mp final⟩
        exact .inl left
  have given : ∀ id verdict, answer = .settled id verdict →
      ¬ (passage.course.hear stream answer).Holds id := fun id verdict same held =>
    (Course.holds_hear.mp held).2 verdict same
  have replied : (passage.on { passage.course with
      outbound := answer.settle passage.course.outbound
      reports := passage.course.reports ++ answer.reports passage.course.outbound
      forth :=
        Lane.put passage.course.forth passage.course.senderStream answer.reply }).Guarded := by
    cases answer with
    | stored id => simpa [Answer.reply] using settled
    | settled id verdict =>
      refine settled.put (.release id) (fun _ _ same => by cases same) ?_
      rintro _ ⟨⟩
      exact ⟨bound, given id verdict rfl, late id verdict rfl⟩
  exact replied.thinBack (passage.course.back stream).pop (List.tail_sublist _)

/-- The sender hears several answers. -/
theorem Guarded.hearAll (guarded : passage.Guarded) {stream : StreamId}
    (answers rest : List Answer)
    (front : (passage.course.back stream).inFlight = answers ++ rest)
    (late : ∀ id verdict, .settled id verdict ∈ answers → ∀ current,
      passage.course.senderStream = some current → ∀ body,
      .data id body ∈ passage.promised current → id ∈ passage.overtaken) :
    (passage.on (answers.foldl (Course.hear stream) passage.course)).Guarded := by
  induction answers generalizing passage with
  | nil => exact guarded
  | cons answer answers ih =>
    have heard : (passage.on (passage.course.hear stream answer)).Guarded :=
      guarded.hear front fun id verdict same => late id verdict (same ▸ List.mem_cons_self)
    refine ih heard ?_ fun id verdict listed => late id verdict (List.mem_cons_of_mem _ listed)
    simp [on, Course.hear, Lane.pop, front]

theorem line_senderInstall {stream : StreamId} (silent : passage.line stream = [])
    (other : StreamId) :
    (passage.senderInstall stream).line other =
      if other = stream then passage.course.unconfirmed else passage.line other := by
  obtain ⟨nothing, unpromised⟩ := List.append_eq_nil_iff.mp silent
  by_cases same : other = stream
  · subst same
    simp [line, senderInstall, nothing, unpromised]
  · simp [line, senderInstall, same]

theorem mem_line_senderInstall {stream other : StreamId} {notice : Notice}
    (silent : passage.line stream = [])
    (said : notice ∈ (passage.senderInstall stream).line other) :
    notice ∈ passage.line other ∨ ∃ entry ∈ passage.course.outbound, ∃ body,
      entry.body = some body ∧ notice = .data entry.id body := by
  rw [line_senderInstall silent] at said
  split at said
  · exact .inr (Course.mem_unconfirmed said)
  · exact .inl said

/-- What is sent on a new stream is what the sender has no final answer to. -/
theorem Guarded.senderInstall (guarded : passage.Guarded) {stream : StreamId}
    (later : ∀ earlier ∈ passage.course.senderStreams, earlier < stream) :
    (passage.senderInstall stream).Guarded := by
  have unknown : stream ∉ passage.course.senderStreams := fun listed =>
    Nat.lt_irrefl _ (later stream listed)
  have silent : passage.line stream = [] := guarded.written stream unknown
  constructor
  case toOutgoing =>
    refine { place := guarded.place, body := guarded.body, newest := ?_, written := ?_,
             carried := ?_, released := ?_, final := ?_, finalAcross := ?_, pending := ?_ }
    · intro other inUse
      obtain rfl := Option.some.inj inUse
      refine ⟨List.mem_append_right _ (List.mem_singleton_self _), fun earlier listed => ?_⟩
      rcases List.mem_append.mp listed with before | last
      · exact Nat.le_of_lt (later earlier before)
      · exact Nat.le_of_eq (List.mem_singleton.mp last)
    · intro other unknown
      obtain ⟨before, different⟩ := not_or.mp fun either => unknown (List.mem_append.mpr either)
      rw [line_senderInstall silent, if_neg fun same => different (List.mem_singleton.mpr same)]
      exact guarded.written other before
    · intro other id body said
      rcases mem_line_senderInstall silent said with before | ⟨entry, held, content, kept, same⟩
      · exact guarded.carried other id body before
      · obtain ⟨rfl, rfl⟩ := Notice.data.inj same
        exact guarded.body entry held body kept
    · intro other id said
      rcases mem_line_senderInstall silent said with before | ⟨_, _, _, _, same⟩
      · exact guarded.released other id before
      · cases same
    · intro other
      rw [line_senderInstall silent]
      split
      · refine List.pairwise_of_forall_mem_list fun earlier again _ _ id revives => ?_
        obtain ⟨_, _, _, _, same⟩ := Course.mem_unconfirmed again
        cases revives.1.symm.trans same
      · exact guarded.final other
    · intro other further id body order released sent
      rcases mem_line_senderInstall silent released with released | ⟨_, _, _, _, same⟩
      · rcases mem_line_senderInstall silent sent with sent | ⟨entry, held, _, _, same⟩
        · exact guarded.finalAcross other further id body order released sent
        · obtain ⟨rfl, _⟩ := Notice.data.inj same
          exact (guarded.released other entry.id released).2 ⟨entry, held, rfl⟩
      · cases same
    · intro other inUse id body promised
      obtain rfl := Option.some.inj inUse
      simp only [Passage.senderInstall, Function.update_self] at promised
      rcases List.mem_append.mp promised with before | again
      · have said : .data id body ∈ passage.line stream := List.mem_append_right _ before
        simp [silent] at said
      · obtain ⟨entry, held, _, _, same⟩ := Course.mem_unconfirmed again
        obtain ⟨rfl, _⟩ := Notice.data.inj same
        exact .inl ⟨entry, held, rfl⟩
  case toIncoming => exact { guarded.toIncoming with }
  case gone =>
    intro isOpen id arrived early unknown
    obtain ⟨given, absent⟩ := guarded.gone isOpen id arrived early unknown
    refine ⟨given, fun other ahead body said => ?_⟩
    rcases mem_line_senderInstall silent said with before | ⟨entry, held, _, _, same⟩
    · exact absent other ahead body before
    · obtain ⟨rfl, _⟩ := Notice.data.inj same
      exact given ⟨entry, held, rfl⟩

/-- The sender loses its stream. -/
theorem Guarded.senderLose (guarded : passage.Guarded) :
    (passage.on passage.course.senderLose).Guarded where
  toOutgoing :=
    { guarded.toOutgoing with
      newest := fun _ inUse => by cases inUse
      pending := fun _ inUse => by cases inUse }
  toIncoming := { guarded.toIncoming with }
  gone := guarded.gone

theorem Guarded.senderClose (guarded : passage.Guarded) :
    (passage.on passage.course.senderClose).Guarded := by
  have emptied : (passage.on { passage.course.senderLose with
      outbound := []
      reports := passage.course.reports ++
        passage.course.outbound.map fun entry => (entry.ticket, .error .closed) }).Guarded :=
    guarded.senderLose.settle _ (fun _ listed => by cases listed) fun _ inUse => by cases inUse
  exact { emptied with }

/-! ## Changes at the receiver -/

/-- What the receiver says about a message that was accepted keeps a passage guarded. -/
theorem Guarded.reply (guarded : passage.Guarded) {items : List Answer}
    (about : ∀ answer ∈ items, answer.id.toNat < passage.course.accepted.length) :
    (passage.on { passage.course with
      back := Lane.put passage.course.back passage.course.receiverStream items }).Guarded := by
  refine guarded.reanswer fun stream answer said => ?_
  rcases said with inFlight | announced
  · rcases Lane.mem_put inFlight with before | ⟨_, new⟩
    · exact guarded.answered answer ⟨stream, .inl before⟩
    · exact about answer new
  · exact guarded.answered answer ⟨stream, .inr announced⟩

/-- The sender has released a message, which the receiver forgets if it has finished with it. -/
theorem Guarded.seeRelease (guarded : passage.Guarded) {stream : StreamId}
    (attached : stream ∈ passage.course.receiverStreams) {id : MessageId} {rest : List Notice}
    (front : (passage.course.forth stream).inFlight = .release id :: rest) :
    (passage.on { passage.course with
      inbound := (Notice.release id).note passage.course.inbound
      forth := Function.update passage.course.forth stream
        (passage.course.forth stream).pop }).Guarded := by
  have popped := guarded.thinForth (passage.course.forth stream).pop (List.tail_sublist _)
  have front : passage.line stream = .release id :: (rest ++ passage.promised stream) := by
    rw [line, front, List.cons_append]
  have released : .release id ∈ passage.line stream := by simp [front]
  refine { popped with known := fun other ⟨disposition, listed⟩ => ?_,
                       gone := fun isOpen other arrived early unknown => ?_ }
  · exact guarded.known other ⟨disposition, (List.mem_filter.mp listed).1⟩
  · by_cases known : passage.course.Knows other
    · -- The notice releases this message, so it is not sent again after that.
      have same : other = id := by
        obtain ⟨disposition, listed⟩ := known
        by_contra different
        exact unknown ⟨disposition, List.mem_filter.mpr ⟨listed, by simp [different]⟩⟩
      subst same
      refine ⟨(guarded.released stream other released).2, fun further ahead body said => ?_⟩
      by_cases here : further = stream
      · subst here
        have final := guarded.final further
        rw [front, List.pairwise_cons] at final
        refine early (final.1 _ ?_ other ⟨rfl, body, rfl⟩)
        simpa [line, on, Lane.pop, *] using said
      · refine guarded.finalAcross stream further other body
          (Nat.lt_of_le_of_ne (ahead stream attached) (Ne.symm here)) released ?_
        simpa [line, on, here] using said
    · exact popped.gone isOpen other arrived early known

/-- A message arrives that the receiver does not know. -/
theorem Guarded.seeNew (guarded : passage.Guarded) {stream : StreamId}
    (ahead : passage.course.Ahead stream) (isOpen : passage.course.receiverOpen = true)
    {id : MessageId} {body : Bytes} (said : .data id body ∈ passage.line stream)
    (unknown : ¬ passage.course.Knows id) :
    (passage.on { passage.course with
      inbound := passage.course.inbound ++ [(id, .received)]
      waiting := passage.course.waiting ++ [(id, body)] }).Guarded := by
  have arrived : ∀ other, other ∈ (passage.on { passage.course with
      inbound := passage.course.inbound ++ [(id, .received)]
      waiting := passage.course.waiting ++ [(id, body)] }).arrived ↔
        other ∈ passage.arrived ∨ other = id := by
    simp [Passage.arrived, on, or_assoc]
  constructor
  case toOutgoing => exact { guarded.toOutgoing with }
  case toIncoming =>
    refine { answered := guarded.answered, known := ?_, busy := guarded.busy, waiting := ?_,
             handed := guarded.handed, once := ?_ }
    · rintro other ⟨disposition, listed⟩
      rcases List.mem_append.mp listed with before | new
      · exact (arrived other).mpr (.inl (guarded.known other ⟨disposition, before⟩))
      · exact (arrived other).mpr (.inr (Prod.mk.inj (List.mem_singleton.mp new)).1)
    · intro other content listed
      rcases List.mem_append.mp listed with before | new
      · exact guarded.waiting other content before
      · obtain ⟨rfl, rfl⟩ := Prod.mk.inj (List.mem_singleton.mp new)
        exact guarded.carried stream other content said
    · intro other early
      have count : (passage.on { passage.course with
          inbound := passage.course.inbound ++ [(id, .received)]
          waiting := passage.course.waiting ++ [(id, body)] }).arrived.count other =
            passage.arrived.count other + [id].count other := by
        simp [Passage.arrived, on, List.count_append, Nat.add_assoc]
      rw [count]
      by_cases same : other = id
      · subst same
        -- Had it arrived before, it could not reach the receiver again.
        have first : other ∉ passage.arrived := fun before =>
          (guarded.gone isOpen other before early unknown).2 stream ahead body said
        simp [List.count_eq_zero_of_not_mem first]
      · have never : other ∉ [id] := by simpa using same
        rw [List.count_eq_zero_of_not_mem never]
        exact guarded.once other early
  case gone =>
    intro _ other listed early forgotten
    rcases (arrived other).mp listed with before | rfl
    · exact guarded.gone isOpen other before early fun ⟨disposition, known⟩ =>
        forgotten ⟨disposition, List.mem_append_left _ known⟩
    · exact absurd ⟨.received, List.mem_append_right _ (List.mem_singleton_self _)⟩ forgotten

/-- The next notice on a stream reaches the receiver, which may still read this stream. -/
theorem Guarded.see (guarded : passage.Guarded) {stream : StreamId}
    (attached : stream ∈ passage.course.receiverStreams) (ahead : passage.course.Ahead stream)
    (isOpen : passage.course.receiverOpen = true) {notice : Notice} {rest : List Notice}
    (front : (passage.course.forth stream).inFlight = notice :: rest) :
    (passage.on (passage.course.see stream notice)).Guarded := by
  cases notice with
  | release id =>
    simpa [Course.see, Notice.deliveries, Notice.reply] using guarded.seeRelease attached front
  | data id body =>
    have said : .data id body ∈ passage.line stream := by simp [line, front]
    have about : ∀ disposition : Disposition, ∀ answer ∈ [disposition.toAnswer id],
        answer.id.toNat < passage.course.accepted.length := by
      intro disposition answer given
      obtain rfl := List.mem_singleton.mp given
      have bound := (List.getElem?_eq_some_iff.mp (guarded.carried stream id body said)).1
      cases disposition <;> exact bound
    cases found : lookup? passage.course.inbound id with
    | some disposition =>
      rw [Course.see_known found]
      exact (guarded.thinForth _ (List.tail_sublist _)).reply (about disposition)
    | none =>
      rw [Course.see_new found]
      have entered := guarded.seeNew ahead isOpen said (Course.lookup?_eq_none.mp found)
      exact (entered.thinForth (passage.course.forth stream).pop (List.tail_sublist _)).reply
        (about .received)

/-- The receiver sees several notices. -/
theorem Guarded.seeAll (guarded : passage.Guarded) {stream : StreamId}
    (attached : stream ∈ passage.course.receiverStreams) (ahead : passage.course.Ahead stream)
    (isOpen : passage.course.receiverOpen = true) (notices rest : List Notice)
    (front : (passage.course.forth stream).inFlight = notices ++ rest) :
    (passage.on (notices.foldl (Course.see stream) passage.course)).Guarded := by
  induction notices generalizing passage with
  | nil => exact guarded
  | cons notice notices ih =>
    have seen : (passage.on (passage.course.see stream notice)).Guarded :=
      guarded.see attached ahead isOpen front
    refine ih seen attached ahead isOpen ?_
    simp [on, Course.see, Lane.pop, front]

theorem Guarded.receiverInstall (guarded : passage.Guarded) (stream : StreamId)
    {answers : List Answer} (known : ∀ answer ∈ answers, passage.course.Knows answer.id) :
    (passage.receiverInstall stream answers).Guarded where
  toOutgoing := { guarded.toOutgoing with }
  toIncoming :=
    { guarded.toIncoming with
      answered := by
        rintro answer ⟨other, inFlight | announced⟩
        · exact guarded.answered answer ⟨other, .inl inFlight⟩
        · by_cases same : other = stream
          · subst same
            simp only [Passage.receiverInstall, Function.update_self] at announced
            rcases List.mem_append.mp announced with before | new
            · exact guarded.answered answer ⟨other, .inr before⟩
            · exact guarded.arrived_lt (guarded.known _ (known answer new))
          · simp only [Passage.receiverInstall, ne_eq, same, not_false_eq_true,
              Function.update_of_ne] at announced
            exact guarded.answered answer ⟨other, .inr announced⟩ }
  gone isOpen id arrived early unknown := by
    obtain ⟨given, absent⟩ := guarded.gone isOpen id arrived early unknown
    exact ⟨given, fun other ahead => absent other fun earlier listed =>
      ahead earlier (List.mem_append_left _ listed)⟩

theorem Guarded.receiverLose (guarded : passage.Guarded) :
    (passage.on passage.course.receiverLose).Guarded :=
  { guarded with }

theorem Guarded.receiverClose (guarded : passage.Guarded) :
    (passage.on passage.course.receiverClose).Guarded where
  toOutgoing := { guarded.toOutgoing with }
  toIncoming := { guarded.toIncoming with known := fun _ ⟨_, listed⟩ => by cases listed }
  gone isOpen := by cases isOpen

theorem Guarded.hand (guarded : passage.Guarded) {id : MessageId} {body : Bytes}
    {rest : List (MessageId × Bytes)} (waiting : passage.course.waiting = (id, body) :: rest) :
    (passage.hand id body rest).Guarded := by
  have accepted := guarded.waiting id body (by simp [waiting])
  have arrived : (passage.hand id body rest).arrived = passage.arrived := by
    simp [Passage.arrived, Passage.hand, Course.hand, waiting]
  constructor
  case toOutgoing => exact { guarded.toOutgoing with }
  case toIncoming =>
    refine { answered := guarded.answered, known := ?_, busy := ?_, waiting := ?_, handed := ?_,
             once := ?_ }
    · exact fun other known => arrived ▸ guarded.known other known
    · rintro _ ⟨⟩
      exact List.mem_append_right _ (List.mem_singleton_self _)
    · exact fun other content listed =>
        guarded.waiting other content (waiting ▸ List.mem_cons_of_mem _ listed)
    · have before := guarded.handed
      simp only [Passage.hand, Course.hand, List.map_append, List.map_cons, List.map_nil, accepted,
        before]
    · exact fun other early => arrived ▸ guarded.once other early
  case gone => exact fun isOpen other listed => guarded.gone isOpen other (arrived ▸ listed)

/-- The receiver ends with a message while its pipe is open. -/
theorem Guarded.conclude (guarded : passage.Guarded) {id : MessageId}
    (busy : passage.course.busy = some id) (receipt : Receipt) :
    (passage.on (passage.course.conclude id receipt)).Guarded where
  toOutgoing := { guarded.toOutgoing with }
  toIncoming :=
    { guarded.toIncoming with
      answered := by
        rintro answer ⟨stream, said | announced⟩
        · rcases Lane.mem_put said with before | ⟨_, new⟩
          · exact guarded.answered answer ⟨stream, .inl before⟩
          · obtain rfl := List.mem_singleton.mp new
            exact guarded.arrived_lt (List.mem_append_left _ (guarded.busy id busy))
        · exact guarded.answered answer ⟨stream, .inr announced⟩
      known := fun other known => guarded.known other (Course.knows_conclude.mp known)
      busy := fun _ same => by cases same }
  gone isOpen other arrived early unknown :=
    guarded.gone isOpen other arrived early fun known => unknown (Course.knows_conclude.mpr known)

/-- The receiver ends with a message, and that is not put down. -/
theorem Guarded.concludeClosed (guarded : passage.Guarded) (receipt : Receipt) :
    (passage.on (passage.course.concludeClosed receipt)).Guarded where
  toOutgoing := { guarded.toOutgoing with }
  toIncoming := { guarded.toIncoming with busy := fun _ same => by cases same }
  gone := guarded.gone

end Passage

end Courier
