import Courier.Proofs.Pipe.Passage
import Courier.Proofs.Pipe.Steps
import Mathlib.Data.List.Flatten
import Mathlib.Data.List.Nodup

/-!
# The steps of two pipes that attach streams step by step

The passages of a `Joint` stay guarded from step to step.  Of the three steps of an
attach the first one adds to what is said, as what it takes down counts at once;
the second one changes nothing that is said; and the third one moves what was taken
down to where it counted all the time, or loses it.

A message is put down as overtaken by the very step that lets its final answer
arrive (`mem_overtakenBy`), before the release is written.
-/

namespace Courier

set_option autoImplicit false

/-! ## Attaches under way -/

namespace Attaching

/-- The packets that are still to be written on a stream. -/
def toWrite (underway : List Attaching) (stream : StreamId) : List Packet :=
  (underway.filter fun attaching => attaching.stream = stream).flatMap (·.packets)

/-- What is still to be said on a stream of the messages that the party sends. -/
def promised (underway : List Attaching) (stream : StreamId) : List Notice :=
  (toWrite underway stream).flatMap Packet.notices

/-- What is still to be said on a stream of the messages that the party receives. -/
def announced (underway : List Attaching) (stream : StreamId) : List Answer :=
  (toWrite underway stream).flatMap Packet.answers

theorem toWrite_append (underway : List Attaching) (attaching : Attaching) :
    toWrite (underway ++ [attaching]) = Function.update (toWrite underway) attaching.stream
      (toWrite underway attaching.stream ++ attaching.packets) := by
  funext stream
  by_cases same : stream = attaching.stream
  · subst same
    simp [toWrite, List.filter_append]
  · simp [toWrite, List.filter_append, same, Ne.symm same]

theorem promised_append (underway : List Attaching) (attaching : Attaching) :
    promised (underway ++ [attaching]) = Function.update (promised underway) attaching.stream
      (promised underway attaching.stream ++ attaching.packets.flatMap Packet.notices) := by
  funext stream
  by_cases same : stream = attaching.stream
  · subst same
    simp [promised, toWrite_append]
  · simp [promised, toWrite_append, same]

theorem announced_append (underway : List Attaching) (attaching : Attaching) :
    announced (underway ++ [attaching]) = Function.update (announced underway) attaching.stream
      (announced underway attaching.stream ++ attaching.packets.flatMap Packet.answers) := by
  funext stream
  by_cases same : stream = attaching.stream
  · subst same
    simp [announced, toWrite_append]
  · simp [announced, toWrite_append, same]

theorem toWrite_map {underway : List Attaching} {change : Attaching → Attaching}
    (kept : ∀ attaching, (change attaching).stream = attaching.stream ∧
      (change attaching).packets = attaching.packets) :
    toWrite (underway.map change) = toWrite underway := by
  funext stream
  induction underway with
  | nil => rfl
  | cons attaching underway ih =>
    simp only [toWrite, List.map_cons, List.filter_cons, (kept attaching).1] at ih ⊢
    split <;> simp [(kept attaching).2, ih]

theorem toWrite_sublist {fewer underway : List Attaching} (sublist : fewer.Sublist underway)
    (stream : StreamId) : (toWrite fewer stream).Sublist (toWrite underway stream) :=
  (sublist.filter _).flatMap _

theorem mem_toWrite {underway : List Attaching} {stream : StreamId} {packet : Packet} :
    packet ∈ toWrite underway stream ↔
      ∃ attaching ∈ underway, attaching.stream = stream ∧ packet ∈ attaching.packets := by
  simp [toWrite, and_assoc]

/-- Where the streams are different, all that is to be written on one is what one attach has taken
down. -/
theorem toWrite_of_mem {underway : List Attaching} (distinct : (underway.map (·.stream)).Nodup)
    {attaching : Attaching} (listed : attaching ∈ underway) :
    toWrite underway attaching.stream = attaching.packets := by
  induction underway with
  | nil => cases listed
  | cons first rest ih =>
    obtain ⟨fresh, distinct⟩ := List.nodup_cons.mp distinct
    rcases List.mem_cons.mp listed with rfl | listed
    · have others : rest.filter (fun other => other.stream = attaching.stream) = [] :=
        List.filter_eq_nil_iff.mpr fun other among same =>
          fresh (List.mem_map.mpr ⟨other, among, of_decide_eq_true same⟩)
      simp [toWrite, others]
    · have different : first.stream ≠ attaching.stream := fun same =>
        fresh (List.mem_map.mpr ⟨attaching, listed, same.symm⟩)
      have rest := ih distinct listed
      simpa [toWrite, different] using rest

/-- A message is sent once more by one of the packets. -/
theorem resends_iff {attaching : Attaching} {id : MessageId} :
    attaching.resends id = true ↔ ∃ body, Packet.data id body ∈ attaching.packets := by
  simp only [resends, List.any_eq_true]
  constructor
  · rintro ⟨packet, listed, same⟩
    cases packet with
    | data other body => exact ⟨body, of_decide_eq_true same ▸ listed⟩
    | _ => cases same
  · rintro ⟨body, listed⟩
    exact ⟨_, listed, by simp⟩

end Attaching

theorem Packet.data_of_mem_notices {packet : Packet} {id : MessageId} {body : Bytes}
    (said : .data id body ∈ packet.notices) : packet = .data id body := by
  cases packet with
  | data other content =>
    obtain ⟨rfl, rfl⟩ := Notice.data.inj (List.mem_singleton.mp said)
    rfl
  | ackOfNack other => cases List.mem_singleton.mp said
  | _ => cases said

/-- The stream of a generation is not that of another one. -/
theorem Party.Regular.generation_unique {party : Party} (regular : party.Regular)
    {first second : Nat} {stream : StreamId} (attached : party.stream? first = some stream)
    (again : party.stream? second = some stream) : first = second := by
  cases first with
  | zero => cases attached
  | succ first =>
    cases second with
    | zero => cases again
    | succ second =>
      have distinct : party.streams.Nodup := regular.ascending.imp fun order => Nat.ne_of_lt order
      obtain ⟨bound, found⟩ := List.getElem?_eq_some_iff.mp attached
      obtain ⟨limit, same⟩ := List.getElem?_eq_some_iff.mp again
      rw [distinct.getElem_inj_iff.mp (found.trans same.symm)]

/-- The stream in use is that of the newest generation. -/
theorem Party.Regular.inUse {party : Party} (regular : party.Regular) {stream : StreamId}
    (inUse : party.pipe.stream? = some stream) :
    party.stream? party.pipe.generation = some stream := by
  obtain ⟨attachment, attached, rfl⟩ := Option.map_eq_some_iff.mp inUse
  have last := (regular.attached attachment attached).2
  rw [List.getLast?_eq_getElem?] at last
  rw [regular.generation]
  cases length : party.streams.length with
  | zero => simp [List.length_eq_zero_iff.mp length] at last
  | succ number => simpa [length, Party.stream?] using last

namespace Joint

variable {joint : Joint} {side : Side}

/-! ## The passages of a joint -/

/-- The passage of the messages that the party of a side sends. -/
def passage (joint : Joint) (side : Side) : Passage :=
  ⟨joint.pair.course side, Attaching.promised (joint.underway side),
    Attaching.announced (joint.underway side.other), joint.handed side.other, joint.overtaken side⟩

/-- The attaches of a party that are under way fit its streams. -/
structure Attached (party : Party) (underway : List Attaching) : Prop where
  known : ∀ attaching ∈ underway, party.stream? attaching.generation = some attaching.stream
  distinct : (underway.map (·.stream)).Nodup

/-- What holds at every moment. -/
structure Valid (joint : Joint) : Prop where
  guarded : ∀ side, (joint.passage side).Guarded
  orderly : ∀ side, (joint.pair.party side).Orderly
  attached : ∀ side, Attached (joint.pair.party side) (joint.underway side)

/-- The fewer attaches are under way, the fewer have to fit. -/
theorem Attached.fewer {party : Party} {underway fewer : List Attaching}
    (attached : Attached party underway) (sublist : fewer.Sublist underway) :
    Attached party fewer where
  known attaching listed := attached.known attaching (sublist.subset listed)
  distinct := attached.distinct.sublist (sublist.map _)

/-- The streams of a party decide what fits. -/
theorem Attached.of_streams {party other : Party} {underway : List Attaching}
    (attached : Attached party underway) (same : other.streams = party.streams) :
    Attached other underway where
  known attaching listed := by
    rw [← attached.known attaching listed]
    unfold Party.stream?
    rw [same]
  distinct := attached.distinct

/-- An operation keeps it if the passages that it leads to are guarded and the party that acts stays
as it should be. -/
theorem Valid.becomes (valid : joint.Valid) {after : Joint} {party : Party}
    {sending receiving : Course}
    (becomes : joint.pair.Becomes side after.pair party sending receiving)
    (sent : ((after.passage side).on sending).Guarded)
    (received : ((after.passage side.other).on receiving).Guarded) (orderly : party.Orderly)
    (attached : Attached party (after.underway side))
    (others : after.underway side.other = joint.underway side.other) : after.Valid where
  guarded subject := by
    rcases side.eq_or_eq_other subject with rfl | rfl
    · rw [← becomes.sending] at sent
      exact sent
    · rw [← becomes.receiving] at received
      exact received
  orderly subject := by
    rcases side.eq_or_eq_other subject with rfl | rfl
    · exact becomes.own ▸ orderly
    · exact becomes.peer ▸ valid.orderly side.other
  attached subject := by
    rcases side.eq_or_eq_other subject with rfl | rfl
    · exact becomes.own ▸ attached
    · rw [becomes.peer, others]
      exact valid.attached side.other

/-- An operation that has nothing to do with an attach keeps it if it leads to guarded passages. -/
theorem Valid.setPair (valid : joint.Valid) {after : Pair} {party : Party}
    {sending receiving : Course}
    (becomes : joint.pair.Becomes side after party sending receiving)
    (sent : ((joint.passage side).on sending).Guarded)
    (received : ((joint.passage side.other).on receiving).Guarded) (orderly : party.Orderly)
    (streams : party.streams = (joint.pair.party side).streams) : (joint.setPair after).Valid :=
  Valid.becomes valid becomes sent received orderly ((valid.attached side).of_streams streams) rfl

/-- An operation on the attaches of one side keeps it if it leads to guarded passages. -/
theorem Valid.setUnderway (valid : joint.Valid) {after : Pair} {party : Party}
    {sending receiving : Course} {underway : List Attaching}
    (becomes : joint.pair.Becomes side after party sending receiving)
    (sent : Passage.Guarded { joint.passage side with
      course := sending, promised := Attaching.promised underway })
    (received : Passage.Guarded { joint.passage side.other with
      course := receiving, announced := Attaching.announced underway })
    (orderly : party.Orderly) (attached : Attached party underway) :
    ((joint.setPair after).setUnderway side underway).Valid := by
  refine valid.becomes becomes ?_ ?_ orderly ?_ ?_
  · simpa [passage, Passage.on, Joint.setUnderway, Joint.setPair, Side.other_ne] using sent
  · simpa [passage, Passage.on, Joint.setUnderway, Joint.setPair, Side.other_ne] using received
  · simpa [Joint.setUnderway] using attached
  · simp [Joint.setUnderway, Joint.setPair, Side.other_ne]

theorem Valid.setPair_self (valid : joint.Valid) : (joint.setPair joint.pair).Valid := valid

/-! ## What has nothing to do with an attach -/

theorem Valid.send (valid : joint.Valid) (side : Side) (body : Bytes)
    (within : (joint.pair.send side body).WithinIds) :
    (joint.setPair (joint.pair.send side body)).Valid := by
  have orderly := valid.orderly side
  rcases Pair.send_cases joint.pair side body orderly.sent with
    ⟨_, _, _, same⟩ | ⟨_, _, _, _, _, entered⟩
  · rw [same]
    exact valid
  · have bound := within side
    rw [entered.own, Party.entering, List.length_append, List.length_singleton] at bound
    have number := (joint.pair.party side).pipe.exchange.newId_toNat orderly.nextId
      (valid.guarded side).place (by omega)
    refine valid.setPair entered ((valid.guarded side).enter body number)
      (valid.guarded side.other) { orderly.entering body with nextId := ?_ } rfl
    simp [Party.entering, MessageId.next, number]

theorem Valid.bind (valid : joint.Valid) (side : Side) :
    (joint.setPair (joint.pair.bind side)).Valid := by
  rcases Pair.bind_cases joint.pair side with same | bound
  · rw [same]
    exact valid
  · exact valid.setPair bound (valid.guarded side) (valid.guarded side.other)
      { valid.orderly side with } rfl

theorem Valid.conclude (valid : joint.Valid) (side : Side) (receipt : Receipt) :
    (joint.setPair (joint.pair.conclude side receipt)).Valid := by
  cases busy : (joint.pair.party side).busy with
  | none =>
    unfold Pair.conclude
    simpa only [busy] using valid.setPair_self
  | some id =>
    have busyCourse : (joint.passage side.other).course.busy = some id := by
      simpa [passage, Pair.course] using busy
    obtain ⟨_, _, _, nextId⟩ := (joint.pair.party side).pipe.conclude_kept id receipt.verdict
    have orderly : ((joint.pair.party side).concluding id receipt).Orderly :=
      { (valid.orderly side).concluding id receipt with
        nextId := nextId.trans (valid.orderly side).nextId }
    cases closed : (joint.pair.party side).pipe.closed with
    | true =>
      exact valid.setPair (Pair.conclude_closed joint.pair side receipt busy closed)
        (valid.guarded side) ((valid.guarded side.other).concludeClosed receipt) orderly rfl
    | false =>
      by_cases received :
          (joint.pair.party side).pipe.exchange.disposition? id = some .received
      · exact valid.setPair (Pair.conclude_open joint.pair side receipt busy closed received)
          (valid.guarded side) ((valid.guarded side.other).conclude busyCourse receipt) orderly rfl
      · exact valid.setPair (Pair.conclude_settled joint.pair side receipt busy closed received)
          (valid.guarded side) ((valid.guarded side.other).concludeClosed receipt) orderly rfl

theorem Valid.perform_lose (valid : joint.Valid) (side : Side) (generation : Nat)
    (cause : Option StreamError) :
    (joint.setPair (Pair.perform side joint.pair (.lose generation cause))).Valid := by
  rcases Pair.perform_lose_cases joint.pair side generation cause with same | lost
  · rw [same]
    exact valid
  · exact valid.setPair lost (valid.guarded side).senderLose (valid.guarded side.other).receiverLose
      { (valid.orderly side).detached with nextId := (valid.orderly side).nextId } rfl

theorem Valid.lose (valid : joint.Valid) (side : Side) (generation : Nat)
    (cause : Option StreamError) :
    (joint.setPair (joint.pair.lose side generation cause)).Valid := by
  rw [Pair.lose_eq_perform]
  exact valid.perform_lose side generation cause

theorem Valid.close (valid : joint.Valid) (side : Side) :
    (joint.setPair (joint.pair.close side)).Valid := by
  rcases Pair.close_cases joint.pair side with same | closed
  · rw [same]
    exact valid
  · exact valid.setPair closed (valid.guarded side).senderClose
      (valid.guarded side.other).receiverClose
      { (valid.orderly side).closing with nextId := (valid.orderly side).nextId } rfl

theorem Valid.cut (valid : joint.Valid) (stream : StreamId) (side : Side) (count : Nat) :
    (joint.setPair (joint.pair.cut stream side count)).Valid := by
  refine valid.setPair (Pair.cut_becomes joint.pair stream side count) ?_ ?_ (valid.orderly side)
    rfl
  · exact (valid.guarded side).thinForth _ (Pair.take_flatMap_isPrefix _ _ count).sublist
  · refine (valid.guarded side.other).thinBack _ ?_
    simpa [passage, Pair.course, Lane.say] using
      (Pair.take_flatMap_isPrefix Packet.answers _ count).sublist

/-! ## The receiver takes a message -/

theorem Valid.hand (valid : joint.Valid) (side : Side) : (joint.hand side).Valid := by
  rcases Pair.hand_cases joint.pair side with ⟨waiting, same⟩ | ⟨id, body, rest, waiting, handed⟩
  · have idle : joint.hand side = joint := by
      simp [Joint.hand, waiting, same]
    rw [idle]
    exact valid
  · have received : ((joint.passage side.other).hand id body rest).Guarded :=
      (valid.guarded side.other).hand (by simpa [passage, Pair.course] using waiting)
    have sent : ((joint.hand side).passage side).on (joint.pair.course side) =
        joint.passage side := by
      simp [passage, Passage.on, Joint.hand, Side.other_ne]
    have given : ((joint.hand side).passage side.other).on
        ((joint.pair.course side.other).hand id body rest) =
          (joint.passage side.other).hand id body rest := by
      simp [passage, Passage.on, Passage.hand, Joint.hand, waiting]
    refine valid.becomes handed ?_ ?_ { valid.orderly side with }
      ((valid.attached side).of_streams rfl) rfl
    · exact sent ▸ valid.guarded side
    · exact given ▸ received

/-! ## The three steps of an attach -/

/-- A closed pipe takes no stream.  Otherwise the stream is put in use, and what has to be said on
it is taken down. -/
theorem install_cases (joint : Joint) (side : Side) (stream : StreamId) :
    joint.install side stream = joint ∨
      ∃ after, joint.install side stream = (joint.setPair after).setUnderway side
          (joint.underway side ++ [⟨stream, (joint.pair.party side).pipe.generation + 1, false,
            (joint.pair.party side).pipe.exchange.resync⟩]) ∧
        joint.pair.Becomes side after ((joint.pair.party side).attaching stream)
          ((joint.passage side).senderInstall stream).course
          ((joint.passage side.other).receiverInstall stream
            ((joint.pair.party side).pipe.exchange.resync.flatMap Packet.answers)).course := by
  unfold Joint.install
  rcases (joint.pair.party side).pipe.install_cases stream with
    ⟨error, refused⟩ | ⟨isOpen, installed⟩
  · left
    simp only [refused]
  · right
    simp only [installed, Pair.change, Pair.performAll_shut, Pair.setParty_setParty,
      Pair.party_setParty_self]
    refine ⟨_, rfl, ?_⟩
    have attaching := Pair.Becomes.of_setParty joint.pair side
      ((joint.pair.party side).attaching stream)
    simpa [Party.attaching, Pair.course, isOpen, Pipe.stream?, passage, Passage.senderInstall,
      Passage.receiverInstall] using attaching

/-- What is taken down for a new stream is about messages that the receiver knows. -/
theorem knows_resync (joint : Joint) (side : Side) {answer : Answer}
    (said : answer ∈ (joint.pair.party side).pipe.exchange.resync.flatMap Packet.answers) :
    (joint.passage side.other).course.Knows answer.id := by
  obtain ⟨id, disposition, listed, rfl⟩ :=
    ((joint.pair.party side).pipe.exchange.mem_resync_answers answer).mp said
  refine ⟨disposition, ?_⟩
  cases disposition <;> simpa [passage, Pair.course, Disposition.toAnswer, Answer.id] using listed

theorem Attached.install {party : Party} {underway : List Attaching}
    (attached : Attached party underway) (orderly : party.Orderly) {stream : StreamId}
    (later : ∀ earlier ∈ party.streams, earlier < stream) (packets : List Packet) :
    Attached (party.attaching stream)
      (underway ++ [⟨stream, party.pipe.generation + 1, false, packets⟩]) where
  known attaching listed := by
    rcases List.mem_append.mp listed with before | new
    · have found := attached.known attaching before
      unfold Party.stream? at found ⊢
      cases number : attaching.generation with
      | zero => simp [number] at found
      | succ place =>
        simp only [number] at found ⊢
        exact (List.getElem?_append_left (List.getElem?_eq_some_iff.mp found).1).trans found
    · obtain rfl := List.mem_singleton.mp new
      simp [Party.stream?, Party.attaching, orderly.generation]
  distinct := by
    rw [List.map_append, List.nodup_append]
    refine ⟨attached.distinct, List.nodup_singleton _, ?_⟩
    rintro _ listed _ new rfl
    obtain ⟨attaching, underway, same⟩ := List.mem_map.mp listed
    have earlier := later _ (Party.mem_of_stream? (attached.known attaching underway))
    exact Nat.lt_irrefl _ (same.trans (List.mem_singleton.mp new) ▸ earlier)

theorem Valid.install (valid : joint.Valid) (side : Side) {stream : StreamId}
    (later : ∀ earlier ∈ (joint.pair.party side).streams, earlier < stream) :
    (joint.install side stream).Valid := by
  rcases install_cases joint side stream with same | ⟨after, installed, becomes⟩
  · rw [same]
    exact valid
  · rw [installed]
    have orderly := valid.orderly side
    have sent := (valid.guarded side).senderInstall later
    have received := (valid.guarded side.other).receiverInstall stream
      (fun answer said => knows_resync joint side said)
    refine valid.setUnderway becomes ?_ ?_ { orderly.attaching later with nextId := orderly.nextId }
      ((valid.attached side).install orderly later _)
    · rw [Attaching.promised_append, Exchange.resync_notices]
      exact sent
    · rw [Attaching.announced_append]
      cases side <;> exact received

theorem Attached.bindStream {party : Party} {underway : List Attaching}
    (attached : Attached party underway) (generation : Nat) :
    Attached party (underway.map fun attaching =>
      if attaching.generation = generation then { attaching with bound := true }
      else attaching) where
  known attaching listed := by
    obtain ⟨before, among, rfl⟩ := List.mem_map.mp listed
    have found := attached.known before among
    split <;> exact found
  distinct := by
    have same : (underway.map fun attaching =>
        if attaching.generation = generation then { attaching with bound := true }
        else attaching).map (·.stream) = underway.map (·.stream) := by
      rw [List.map_map]
      refine List.map_congr_left fun attaching _ => ?_
      simp only [Function.comp_apply]
      split <;> rfl
    rw [same]
    exact attached.distinct

theorem Valid.bindStream (valid : joint.Valid) (side : Side) (generation : Nat) :
    (joint.bindStream side generation).Valid := by
  have toWrite : Attaching.toWrite ((joint.underway side).map fun attaching =>
      if attaching.generation = generation then { attaching with bound := true } else attaching) =
        Attaching.toWrite (joint.underway side) :=
    Attaching.toWrite_map fun attaching => by split <;> exact ⟨rfl, rfl⟩
  refine valid.setUnderway (.nothing joint.pair side) ?_ ?_ (valid.orderly side)
    ((valid.attached side).bindStream generation)
  · unfold Attaching.promised
    rw [toWrite]
    exact valid.guarded side
  · unfold Attaching.announced
    rw [toWrite]
    cases side <;> exact valid.guarded _

theorem others_sublist (joint : Joint) (side : Side) (generation : Nat) :
    (joint.others side generation).Sublist (joint.underway side) :=
  List.filter_sublist

/-- What is not written any more is not said any more. -/
theorem Valid.giveUp (valid : joint.Valid) (side : Side) (generation : Nat) :
    (joint.setUnderway side (joint.others side generation)).Valid := by
  have fewer := joint.others_sublist side generation
  have thinner : ∀ stream,
      (Attaching.promised (joint.others side generation) stream).Sublist
        (Attaching.promised (joint.underway side) stream) :=
    fun stream => (Attaching.toWrite_sublist fewer stream).flatMap _
  have quieter : ∀ stream,
      (Attaching.announced (joint.others side generation) stream).Sublist
        (Attaching.announced (joint.underway side) stream) :=
    fun stream => (Attaching.toWrite_sublist fewer stream).flatMap _
  refine valid.setUnderway (.nothing joint.pair side) ?_ ?_ (valid.orderly side)
    ((valid.attached side).fewer fewer)
  · exact (valid.guarded side).thin (fun stream => (List.Sublist.refl _).append (thinner stream))
      fun stream => (thinner stream).subset
  · refine (valid.guarded side.other).reanswer fun stream answer said => ?_
    refine (valid.guarded side.other).answered answer ⟨stream, said.imp_right fun kept => ?_⟩
    cases side <;> exact (quieter stream).subset kept

theorem Valid.failBind (valid : joint.Valid) (side : Side) (generation : Nat) :
    (joint.failBind side generation).Valid := by
  have gaveUp := valid.giveUp side generation
  have failed : joint.failBind side generation =
      (joint.setUnderway side (joint.others side generation)).setPair (joint.pair.setParty side
        { joint.pair.party side with
          pipe := (joint.pair.party side).pipe.uninstall generation }) := rfl
  rw [failed]
  by_cases current : (joint.pair.party side).pipe.generation = generation
  · have orderly := valid.orderly side
    simp only [Pipe.uninstall, if_pos current]
    exact gaveUp.setPair (.of_detached joint.pair side) (gaveUp.guarded side).senderLose
      (gaveUp.guarded side.other).receiverLose
      { orderly.detached with nextId := orderly.nextId } rfl
  · simp only [Pipe.uninstall, if_neg current]
    rw [Pair.setParty_eq_self joint.pair side]
    exact gaveUp

/-- Where each stream has one attach at most, what is left after one has ended is nothing on its own
stream. -/
theorem toWrite_others (valid : joint.Valid) {side : Side} {attaching : Attaching}
    (listed : attaching ∈ joint.underway side) :
    Attaching.toWrite (joint.others side attaching.generation) attaching.stream = [] := by
  refine List.eq_nil_iff_forall_not_mem.mpr fun packet left => ?_
  obtain ⟨other, among, same, _⟩ := Attaching.mem_toWrite.mp left
  obtain ⟨underway, different⟩ := List.mem_filter.mp among
  have attached := valid.attached side
  refine of_decide_eq_true different ?_
  exact (valid.orderly side).generation_unique (same ▸ attached.known other underway)
    (attached.known attaching listed)

theorem Valid.write (valid : joint.Valid) (side : Side) {attaching : Attaching}
    (listed : attaching ∈ joint.underway side) : (joint.write side attaching).Valid := by
  have nothing := toWrite_others valid listed
  have all := Attaching.toWrite_of_mem (valid.attached side).distinct listed
  have fewer := joint.others_sublist side attaching.generation
  have becomes : joint.pair.Becomes side
      (Pair.perform side joint.pair
        (.write attaching.stream attaching.generation attaching.packets)) (joint.pair.party side)
      { joint.pair.course side with
        forth := Lane.put (joint.pair.course side).forth (some attaching.stream)
          (attaching.packets.flatMap Packet.notices) }
      { joint.pair.course side.other with
        back := Lane.put (joint.pair.course side.other).back (some attaching.stream)
          (attaching.packets.flatMap Packet.answers) } :=
    ⟨rfl, rfl, Pair.course_write_self .., Pair.course_write_other ..⟩
  refine valid.setUnderway becomes ?_ ?_ (valid.orderly side) ((valid.attached side).fewer fewer)
  · refine (valid.guarded side).thin (fun stream => ?_) fun stream =>
      ((Attaching.toWrite_sublist fewer stream).flatMap _).subset
    have kept := (Attaching.toWrite_sublist fewer stream).flatMap Packet.notices
    rcases Lane.put_inFlight (joint.pair.course side).forth (some attaching.stream)
        (attaching.packets.flatMap Packet.notices) stream with same | ⟨here, _, longer⟩
    · simp only [same]
      exact (List.Sublist.refl _).append kept
    · -- What was to be written on this stream now stands in the lane, and nothing else remains.
      obtain rfl := Option.some.inj here
      simp only [longer, Attaching.promised, nothing, List.flatMap_nil, List.append_nil]
      rw [← all]
      exact List.Sublist.refl _
  · refine (valid.guarded side.other).reanswer fun stream answer said => ?_
    refine (valid.guarded side.other).answered answer ⟨stream, ?_⟩
    rcases said with inFlight | kept
    · rcases Lane.mem_put inFlight with before | ⟨here, new⟩
      · exact .inl before
      · obtain rfl := Option.some.inj here
        right
        rw [← all] at new
        cases side <;> exact new
    · right
      have kept := ((Attaching.toWrite_sublist fewer stream).flatMap Packet.answers).subset kept
      cases side <;> exact kept

/-! ## Arrivals -/

/-- A final answer leaves no entry of its message. -/
theorem holds_foldl_hear {course : Course} (stream : StreamId) (answers : List Answer)
    {id : MessageId} (holds : (answers.foldl (Course.hear stream) course).Holds id) :
    course.Holds id ∧ ∀ verdict, .settled id verdict ∉ answers := by
  induction answers generalizing course with
  | nil => exact ⟨holds, fun _ => List.not_mem_nil⟩
  | cons answer answers ih =>
    obtain ⟨later, rest⟩ := ih holds
    obtain ⟨before, other⟩ := Course.holds_hear.mp later
    refine ⟨before, fun verdict listed => ?_⟩
    rcases List.mem_cons.mp listed with same | listed
    · exact other verdict same.symm
    · exact rest verdict listed

theorem Valid.overtake (valid : joint.Valid) (side : Side) (ids : List MessageId) :
    (joint.overtake side ids).Valid := by
  refine valid.becomes (.nothing joint.pair side) ?_ ?_ (valid.orderly side) (valid.attached side)
    rfl
  · have overtaken := (valid.guarded side).overtake ids
    simpa [passage, Passage.on, Joint.overtake] using overtaken
  · simpa [passage, Passage.on, Joint.overtake, Side.other_ne] using valid.guarded side.other

theorem Valid.arrive_ignored (valid : joint.Valid) {side : Side} {generation : Nat}
    {stream : StreamId} {bytes : Bytes} {packets rest : List Packet}
    (inFlight : (joint.pair.lane stream side.other).inFlight = packets ++ rest)
    (ignored : generation ≠ (joint.pair.party side).pipe.generation ∨
      (joint.pair.party side).pipe.closed = true) :
    (joint.setPair (joint.pair.arrive side generation stream bytes rest)).Valid := by
  refine valid.setPair
    (Pair.arrive_ignored_becomes joint.pair side stream bytes rest ignored) ?_ ?_
    (valid.orderly side) rfl
  · refine (valid.guarded side).thinBack _ ?_
    simp only [passage, Pair.course, Lane.say, inFlight, List.flatMap_append]
    exact List.sublist_append_right _ _
  · refine (valid.guarded side.other).thinForth _ ?_
    simp only [passage, Pair.course, Lane.say, inFlight, List.flatMap_append]
    exact List.sublist_append_right _ _

/-- What arrives on the stream in use is heard and seen.  The messages whose final answers are among
it and that are still to be sent there have to count as overtaken. -/
theorem Valid.handled (valid : joint.Valid) {side : Side} {stream : StreamId} {bytes : Bytes}
    {packets rest : List Packet} (isOpen : (joint.pair.party side).pipe.closed = false)
    (attached : (joint.pair.party side).stream? (joint.pair.party side).pipe.generation =
      some stream)
    (inFlight : (joint.pair.lane stream side.other).inFlight = packets ++ rest)
    (read : (joint.pair.party side).reading bytes = packets)
    (late : (joint.pair.party side).pipe.stream? = some stream →
      ∀ id verdict, .settled id verdict ∈ packets.flatMap Packet.answers → ∀ body,
        .data id body ∈ Attaching.promised (joint.underway side) stream →
          id ∈ joint.overtaken side) :
    (joint.setPair (((joint.pair.setLane stream side.other
        { joint.pair.lane stream side.other with inFlight := rest }).setParty side
          ((joint.pair.party side).handling bytes)).performAll side
      ((joint.pair.party side).pipe.write
        ((joint.pair.party side).pipe.exchange.handleAll packets).1.answers))).Valid := by
  have newest := (valid.orderly side).newest attached
  have member := Party.mem_of_stream? attached
  have handled := (joint.pair.party side).pipe.exchange.handleAll_handled
    ((joint.pair.party side).reading bytes)
  refine valid.setPair (Pair.handled_becomes joint.pair side inFlight read) ?_ ?_
    { (valid.orderly side).handling bytes with
      nextId := handled.nextId.trans (valid.orderly side).nextId } rfl
  · refine (valid.guarded side).hearAll _ (rest.flatMap Packet.answers) ?_ ?_
    · simp [passage, Pair.course, Lane.say, inFlight]
    · intro id verdict listed current inUse body promised
      have here := (valid.orderly side).inUse inUse
      obtain rfl := Option.some.inj (attached.symm.trans here)
      exact late inUse id verdict listed body promised
  · refine (valid.guarded side.other).seeAll (by simpa [passage, Pair.course] using member)
      (by simpa [passage, Pair.course, Course.Ahead] using newest)
      (by simp [passage, Pair.course, isOpen]) _ (rest.flatMap Packet.notices) ?_
    simp [passage, Pair.course, Lane.say, inFlight]

/-- A final answer among what arrives overtakes its message if this is still to be sent. -/
theorem mem_overtakenBy (valid : joint.Valid) {side : Side} {stream : StreamId}
    {packets : List Packet}
    (attached : (joint.pair.party side).stream? (joint.pair.party side).pipe.generation =
      some stream)
    (inUse : (joint.pair.party side).pipe.stream? = some stream) {after : Pair}
    (settled : ∀ entry ∈ (after.party side).pipe.exchange.outbound,
      ∀ verdict, .settled entry.id verdict ∉ packets.flatMap Packet.answers)
    {id : MessageId} {verdict : Except String Unit}
    (answered : .settled id verdict ∈ packets.flatMap Packet.answers) {body : Bytes}
    (promised : .data id body ∈ Attaching.promised (joint.underway side) stream) :
    id ∈ joint.overtaken side ++
      joint.overtakenBy side (joint.pair.party side).pipe.generation after := by
  rcases (valid.guarded side).pending stream inUse id body promised with held | overtaken
  · refine List.mem_append_right _ (List.mem_filter.mpr ⟨?_, ?_⟩)
    · obtain ⟨entry, listed, rfl⟩ := held
      exact List.mem_map_of_mem listed
    · obtain ⟨packet, left, said⟩ := List.mem_flatMap.mp promised
      obtain rfl := Packet.data_of_mem_notices said
      obtain ⟨attaching, underway, rfl, resent⟩ := Attaching.mem_toWrite.mp left
      have current := (valid.orderly side).generation_unique
        ((valid.attached side).known attaching underway) attached
      have given : id ∉ (after.party side).pipe.exchange.busyIds := by
        intro busy
        obtain ⟨entry, listed, rfl⟩ := List.mem_map.mp busy
        exact settled entry listed verdict answered
      rw [Bool.and_eq_true, List.any_eq_true]
      exact ⟨decide_eq_true given, attaching, underway,
        by simp [current, Attaching.resends_iff.mpr ⟨body, resent⟩]⟩
  · exact List.mem_append_left _ overtaken

/-- The loss of a stream that broke does not concern the tables. -/
theorem exchange_corruption (pair : Pair) (side : Side) (generation : Nat)
    (fault : Option PacketError) :
    ((pair.performAll side (Pipe.corruption generation fault)).party side).pipe.exchange =
      (pair.party side).pipe.exchange := by
  cases fault with
  | none => rfl
  | some fault =>
    rcases Pair.perform_lose_cases pair side generation
      (some (.broken s!"corrupt stream: {fault.message}")) with same | lost
    · exact congrArg (fun pair : Pair => (pair.party side).pipe.exchange) same
    · exact (congrArg (fun party : Party => party.pipe.exchange) lost.own).trans rfl

theorem Valid.corruption (valid : joint.Valid) (side : Side) (generation : Nat)
    (fault : Option PacketError) :
    (joint.setPair (joint.pair.performAll side (Pipe.corruption generation fault))).Valid := by
  cases fault with
  | none => exact valid
  | some fault => exact valid.perform_lose side generation _

theorem Valid.arrive (valid : joint.Valid) {side : Side} {generation : Nat} {stream : StreamId}
    {bytes : Bytes} {packets rest : List Packet}
    (attached : (joint.pair.party side).stream? generation = some stream)
    (inFlight : (joint.pair.lane stream side.other).inFlight = packets ++ rest)
    (read : generation = (joint.pair.party side).pipe.generation →
      (joint.pair.party side).pipe.closed = false →
      (joint.pair.party side).reading bytes = packets) :
    (joint.arrive side generation stream bytes rest).Valid := by
  have overtaking := valid.overtake side
    (joint.overtakenBy side generation (joint.pair.arrive side generation stream bytes rest))
  by_cases ignored : generation ≠ (joint.pair.party side).pipe.generation ∨
      (joint.pair.party side).pipe.closed = true
  · exact overtaking.arrive_ignored inFlight ignored
  · obtain ⟨current, isOpen⟩ := not_or.mp ignored
    obtain rfl := not_not.mp current
    have isOpen := eq_false_of_ne_true isOpen
    have reading := read rfl isOpen
    have heeded := Pair.arrive_heeded joint.pair side stream bytes rest isOpen
      fun attachment inUse => ((valid.orderly side).attached attachment inUse).1
    rw [reading] at heeded
    have becomes := Pair.handled_becomes joint.pair side inFlight reading
    have settled : ∀ entry ∈ ((joint.pair.arrive side (joint.pair.party side).pipe.generation stream
        bytes rest).party side).pipe.exchange.outbound,
        ∀ verdict, .settled entry.id verdict ∉ packets.flatMap Packet.answers := by
      rw [heeded, exchange_corruption]
      intro entry listed
      refine (@holds_foldl_hear (joint.pair.course side) stream _ _ ?_).2
      rw [← becomes.sending]
      exact ⟨entry, listed, rfl⟩
    have handled := overtaking.handled isOpen attached inFlight reading
      fun inUse id verdict answered body promised => by
        have overtaken := mem_overtakenBy valid attached inUse settled answered promised
        simpa [Joint.overtake] using overtaken
    have corrupted := handled.corruption side (joint.pair.party side).pipe.generation
      ((joint.pair.party side).pipe.reader.push bytes).drain.2.1
    unfold Joint.arrive
    rw [heeded] at corrupted ⊢
    exact corrupted

/-! ## Runs -/

theorem Valid.new (settings : Side → PipeSettings) : (Joint.new settings).Valid where
  guarded side :=
    { place := fun _ held => by cases held
      body := fun _ held => by cases held
      newest := fun _ inUse => by cases inUse
      written := fun _ _ => rfl
      carried := fun _ _ _ said => by cases said
      released := fun _ _ said => by cases said
      final := fun _ => .nil
      finalAcross := fun _ _ _ _ _ released => by cases released
      pending := fun _ inUse => by cases inUse
      answered := fun _ ⟨_, said⟩ => by rcases said with said | said <;> cases said
      known := fun _ ⟨_, listed⟩ => by cases listed
      busy := fun _ busy => by cases busy
      waiting := fun _ _ listed => by cases listed
      handed := rfl
      once := fun _ _ => Nat.zero_le _
      gone := fun _ _ arrived => by cases arrived }
  orderly side :=
    { generation := rfl
      attached := fun _ attached => by cases attached
      sent := rfl
      ascending := .nil
      nextId := rfl }
  attached side :=
    { known := fun _ listed => by cases listed
      distinct := List.nodup_nil }

/-- Messages that were accepted stay accepted. -/
theorem Step.accepted {after : Joint} (step : Step joint after) (subject : Side) :
    (joint.pair.party subject).accepted <+: (after.pair.party subject).accepted := by
  have kept : ∀ {accepted : List Bytes}, accepted = (joint.pair.party subject).accepted →
      (joint.pair.party subject).accepted <+: accepted := fun same => same ▸ List.prefix_rfl
  cases step with
  | install side stream =>
    rcases install_cases joint side stream with same | ⟨after, installed, becomes⟩
    · exact kept (by rw [same])
    · rw [installed]
      exact kept (becomes.accepted rfl subject)
  | bindStream | write | cut => exact List.prefix_rfl
  | failBind side generation => exact kept (Pair.accepted_setParty (by rfl) subject)
  | send side body => exact Pair.accepted_send joint.pair side body subject
  | arrive => exact kept (Pair.accepted_change ..)
  | bind side => exact kept (Pair.accepted_bind ..)
  | hand side => exact kept (Pair.accepted_hand ..)
  | conclude side receipt => exact kept (Pair.accepted_conclude ..)
  | lose | close => exact kept (Pair.accepted_change ..)

/-- One step keeps it. -/
theorem Valid.step (valid : joint.Valid) {after : Joint} (step : Step joint after)
    (within : after.pair.WithinIds) : after.Valid := by
  cases step with
  | install side stream later => exact valid.install side later
  | bindStream side generation => exact valid.bindStream side generation
  | failBind side generation => exact valid.failBind side generation
  | write side attaching underway => exact valid.write side underway
  | send side body => exact valid.send side body within
  | arrive side generation stream bytes packets rest attached _ inFlight read =>
    exact valid.arrive attached inFlight read
  | bind side => exact valid.bind side
  | hand side => exact valid.hand side
  | conclude side receipt => exact valid.conclude side receipt
  | lose side generation cause => exact valid.lose side generation cause
  | close side => exact valid.close side
  | cut stream side count => exact valid.cut stream side count

/-- What any steps in any order lead to, as long as the ids suffice. -/
theorem Reachable.valid {settings : Side → PipeSettings} (reachable : Reachable settings joint)
    (within : joint.pair.WithinIds) : joint.Valid := by
  induction reachable with
  | refl => exact .new settings
  | tail _ step ih =>
    refine (ih fun side => ?_).step step within
    exact Nat.le_trans (step.accepted side).length_le (within side)

end Joint

end Courier
