import Courier.Proofs.Pipe.Sound

/-!
# Changes at the receiver

Everything that the receiver does keeps a course sound: it sees a notice or does
not heed it, attaches a stream, loses it or closes, takes a message and ends with
it.

A message that the receiver does not know is the next one to arrive: it has not
forgotten it, since it forgets a message only when the sender has released it, and
nothing that has not arrived stands before it on the stream.
-/

namespace Courier

set_option autoImplicit false

namespace Course

variable {course : Course}

/-! ## Notices reach the receiver -/

theorem mem_of_lookup? {inbound : List (MessageId × Disposition)} {id : MessageId}
    {disposition : Disposition} (found : lookup? inbound id = some disposition) :
    (id, disposition) ∈ inbound := by
  obtain ⟨entry, first, rfl⟩ := Option.map_eq_some_iff.mp found
  have matching := List.find?_some first
  obtain rfl := of_decide_eq_true matching
  exact List.mem_of_find?_eq_some first

theorem lookup?_eq_none {id : MessageId} :
    lookup? course.inbound id = none ↔ ¬ course.Knows id := by
  simp [lookup?_eq_none_iff_not_mem, Knows]

/-- A message that the receiver does not know is the next one to arrive. -/
theorem Sound.next (sound : course.Sound) (isOpen : course.receiverOpen = true) {stream : StreamId}
    (ahead : course.Ahead stream) {id : MessageId} {body : Bytes} {rest : List Notice}
    (front : (course.forth stream).inFlight = .data id body :: rest)
    (unknown : ¬ course.Knows id) : id.toNat = course.received := by
  rcases Nat.lt_trichotomy id.toNat course.received with earlier | same | later
  · have absent := (sound.gone isOpen id earlier unknown).2 stream ahead body
    simp [front] at absent
  · exact same
  · have number : (MessageId.ofNat course.received).toNat = course.received :=
      MessageId.toNat_ofNat_of_lt (Nat.lt_trans later id.toNat_lt)
    obtain ⟨_, before⟩ := sound.gapless isOpen stream ahead [] id body rest front
      (.ofNat course.received) (Nat.le_of_eq number.symm) (by omega)
    cases before

theorem received_see (stream : StreamId) (notice : Notice) :
    (course.see stream notice).received =
      course.received + (notice.deliveries course.inbound).length := by
  simp [received, see, Nat.add_assoc]

theorem Outward.see (outward : course.Outward) (stream : StreamId) (notice : Notice) :
    (course.see stream notice).Outward :=
  { outward.thin (Lane.sublist_update (course.forth stream).pop (List.tail_sublist _)) with }

theorem Outbox.see (outbox : course.Outbox) (stream : StreamId) (notice : Notice) :
    (course.see stream notice).Outbox :=
  { outbox with
    freed := fun entry held dropped => by
      rw [received_see]
      exact Nat.lt_add_right _ (outbox.freed entry held dropped) }

theorem see_known {stream : StreamId} {id : MessageId} {body : Bytes} {disposition : Disposition}
    (found : lookup? course.inbound id = some disposition) :
    course.see stream (.data id body) =
      { course with
        forth := Function.update course.forth stream (course.forth stream).pop
        back := Lane.put course.back course.receiverStream [disposition.toAnswer id] } := by
  simp [see, Notice.note, Notice.deliveries, Notice.reply, found]

theorem see_new {stream : StreamId} {id : MessageId} {body : Bytes}
    (found : lookup? course.inbound id = none) :
    course.see stream (.data id body) =
      { course with
        inbound := course.inbound ++ [(id, .received)]
        waiting := course.waiting ++ [(id, body)]
        forth := Function.update course.forth stream (course.forth stream).pop
        back := Lane.put course.back course.receiverStream [.stored id] } := by
  simp [see, Notice.note, Notice.deliveries, Notice.reply, found, Disposition.toAnswer]

/-- After a message has reached the receiver it has arrived. -/
theorem Sound.arrived_see (sound : course.Sound) (isOpen : course.receiverOpen = true)
    {stream : StreamId} (ahead : course.Ahead stream) {id : MessageId} {body : Bytes}
    {rest : List Notice} (front : (course.forth stream).inFlight = .data id body :: rest) :
    id.toNat < (course.see stream (.data id body)).received := by
  rw [received_see]
  cases found : lookup? course.inbound id with
  | none =>
    have number := sound.next isOpen ahead front (lookup?_eq_none.mp found)
    simp [Notice.deliveries, found, number]
  | some disposition =>
    exact Nat.lt_add_right _ (sound.known id disposition (mem_of_lookup? found)).1

/-- What the receiver knows after a notice it knew before, except for a new message, and what it
knows no more after one was released. -/
theorem Sound.knows_see (sound : course.Sound) (isOpen : course.receiverOpen = true)
    {stream : StreamId} (ahead : course.Ahead stream) {notice : Notice} {rest : List Notice}
    (front : (course.forth stream).inFlight = notice :: rest) {id : MessageId}
    (arrived : id.toNat < (course.see stream notice).received)
    (unknown : ¬ (course.see stream notice).Knows id) :
    id.toNat < course.received ∧ (¬ course.Knows id ∨ notice = .release id) := by
  cases notice with
  | release other =>
    rw [received_see] at arrived
    refine ⟨arrived, or_iff_not_imp_left.mpr fun known => ?_⟩
    obtain ⟨disposition, listed⟩ := not_not.mp known
    by_contra different
    have distinct : id ≠ other := fun same => different (same ▸ rfl)
    exact unknown ⟨disposition, List.mem_filter.mpr ⟨listed, decide_eq_true (.inl distinct)⟩⟩
  | data other body =>
    cases found : lookup? course.inbound other with
    | some disposition =>
      rw [see_known found] at arrived unknown
      exact ⟨arrived, .inl unknown⟩
    | none =>
      have number := sound.next isOpen ahead front (lookup?_eq_none.mp found)
      rw [received_see] at arrived
      rw [see_new found] at unknown
      have different : id ≠ other := by
        rintro rfl
        exact unknown ⟨.received, List.mem_append_right _ (List.mem_singleton_self _)⟩
      have distinct : id.toNat ≠ other.toNat := fun same => different (MessageId.toNat_inj.mp same)
      simp only [Notice.deliveries, found, List.length_singleton] at arrived
      refine ⟨by omega, .inl fun ⟨disposition, listed⟩ => ?_⟩
      exact unknown ⟨disposition, List.mem_append_left _ listed⟩

theorem Reception.see (sound : course.Sound) (isOpen : course.receiverOpen = true)
    {stream : StreamId} (ahead : course.Ahead stream) {notice : Notice} {rest : List Notice}
    (front : (course.forth stream).inFlight = notice :: rest) :
    (course.see stream notice).Reception := by
  cases notice with
  | release id =>
    refine
      { sound.toReception with
        inOrder := by
          simpa [Course.see, Notice.deliveries, received] using sound.inOrder
        numbered := by
          simpa [Course.see, Notice.deliveries] using sound.numbered
        known := ?_
        held := ?_
        emptied := fun closed => by simp [Course.see, isOpen] at closed }
    · intro other disposition listed
      rw [received_see]
      exact sound.known other disposition (List.mem_filter.mp listed).1
    · intro _ other unfinished arrived
      rw [received_see] at arrived
      exact List.mem_filter.mpr ⟨sound.held isOpen other unfinished arrived, by simp⟩
  | data id body =>
    cases found : lookup? course.inbound id with
    | some disposition =>
      rw [see_known found]
      exact { sound.toReception with }
    | none =>
      have number := sound.next isOpen ahead front (lookup?_eq_none.mp found)
      have content := sound.carried stream id body (by simp [front])
      rw [see_new found]
      refine
        { sound.toReception with
          inOrder := ?_
          numbered := ?_
          known := ?_
          held := ?_
          emptied := fun closed => by simp [isOpen] at closed }
      · have longer : course.accepted.take (course.received + 1)
            = course.accepted.take course.received ++ [body] := by
          rw [List.take_add_one, ← number, content]
          rfl
        simp only [List.map_append, List.map_cons, List.map_nil, ← List.append_assoc, sound.inOrder,
          received, List.length_append, List.length_singleton, ← Nat.add_assoc]
        exact longer.symm
      · simp only [List.map_append, sound.numbered, List.map_cons, List.map_nil, number, received,
          List.length_append, List.length_singleton, List.range'_1_concat]
      · intro other disposition listed
        simp only [received, List.length_append, List.length_singleton, ← Nat.add_assoc]
        rcases List.mem_append.mp listed with before | new
        · obtain ⟨bound, standing⟩ := sound.known other disposition before
          exact ⟨Nat.lt_succ_of_lt bound, standing⟩
        · obtain ⟨rfl, rfl⟩ := Prod.mk.inj (List.mem_singleton.mp new)
          refine ⟨Nat.lt_succ_of_le (Nat.le_of_eq number), (standing_of_le ?_).symm⟩
          exact number ▸ sound.receipts_le_received
      · intro _ other unfinished arrived
        simp only [received, List.length_append, List.length_singleton, ← Nat.add_assoc] at arrived
        rcases Nat.lt_succ_iff_lt_or_eq.mp arrived with before | last
        · exact List.mem_append_left _ (sound.held isOpen other unfinished before)
        · obtain rfl := MessageId.toNat_inj.mp (last.trans number.symm)
          exact List.mem_append_right _ (List.mem_singleton_self _)

theorem received_le_see (stream : StreamId) (notice : Notice) :
    course.received ≤ (course.see stream notice).received := by
  rw [received_see]
  exact Nat.le_add_right _ _

theorem Continuous.see (sound : course.Sound) (isOpen : course.receiverOpen = true)
    {stream : StreamId} (attached : stream ∈ course.receiverStreams) (ahead : course.Ahead stream)
    {notice : Notice} {rest : List Notice}
    (front : (course.forth stream).inFlight = notice :: rest) :
    (course.see stream notice).Continuous where
  gone _ id arrived unknown := by
    have fewer := Lane.sublist_update (course.forth stream).pop
      (List.tail_sublist (course.forth stream).inFlight)
    obtain ⟨before, forgotten | rfl⟩ := sound.knows_see isOpen ahead front arrived unknown
    · obtain ⟨given, absent⟩ := sound.gone isOpen id before forgotten
      exact ⟨given, fun other still body inFlight =>
        absent other still body ((fewer other).subset inFlight)⟩
    · -- The notice releases the message: it is not sent again after that.
      have released : Notice.release id ∈ (course.forth stream).inFlight := by simp [front]
      refine ⟨(sound.released stream id released).2, fun other still body inFlight => ?_⟩
      by_cases same : other = stream
      · subst same
        have final := sound.final other
        rw [front, List.pairwise_cons] at final
        simp only [Course.see, Function.update_self, Lane.pop, front, List.tail_cons] at inFlight
        exact final.1 _ inFlight id body rfl rfl
      · exact sound.finalAcross stream other id body
          (Nat.lt_of_le_of_ne (still stream attached) (Ne.symm same)) released
          ((fewer other).subset inFlight)
  gapless _ other still before id body after inFlight missing unarrived earlier := by
    have unarrivedBefore := Nat.le_trans (received_le_see stream notice) unarrived
    by_cases same : other = stream
    · subst same
      simp only [Course.see, Function.update_self, Lane.pop, front, List.tail_cons] at inFlight
      obtain ⟨content, found⟩ := sound.gapless isOpen other still (notice :: before) id body after
        (by rw [front, inFlight]; rfl) missing unarrivedBefore earlier
      rcases List.mem_cons.mp found with rfl | found
      · have := sound.arrived_see isOpen ahead front
        omega
      · exact ⟨content, found⟩
    · simp only [Course.see, ne_eq, same, not_false_eq_true, Function.update_of_ne] at inFlight
      exact sound.gapless isOpen other still before id body after inFlight missing unarrivedBefore
        earlier
  complete _ other writing whole still id unarrived bound := by
    have unarrivedBefore := Nat.le_trans (received_le_see stream notice) unarrived
    by_cases same : other = stream
    · subst same
      simp only [Course.see, Function.update_self, Lane.pop] at whole ⊢
      obtain ⟨body, found⟩ :=
        sound.complete isOpen other writing whole still id unarrivedBefore bound
      rw [front] at found ⊢
      rcases List.mem_cons.mp found with rfl | found
      · have := sound.arrived_see isOpen ahead front
        omega
      · exact ⟨body, found⟩
    · simp only [Course.see, ne_eq, same, not_false_eq_true, Function.update_of_ne] at whole ⊢
      exact sound.complete isOpen other writing whole still id unarrivedBefore bound

/-- A notice is answered with what the receipts say. -/
theorem Sound.mem_reply (sound : course.Sound) (isOpen : course.receiverOpen = true)
    {stream : StreamId} (ahead : course.Ahead stream) {notice : Notice} {rest : List Notice}
    (front : (course.forth stream).inFlight = notice :: rest) {answer : Answer}
    (reply : answer ∈ notice.reply course.inbound) :
    (∃ id, answer = .stored id ∧ id.toNat < (course.see stream notice).received) ∨
      ∃ id verdict, answer = .settled id verdict ∧ course.Judged id verdict := by
  cases notice with
  | release id => cases reply
  | data id body =>
    have arrived := sound.arrived_see isOpen ahead front
    obtain rfl := List.mem_singleton.mp reply
    cases found : lookup? course.inbound id with
    | none => exact .inl ⟨id, by simp [Disposition.toAnswer], arrived⟩
    | some disposition =>
      rw [Option.getD_some]
      rcases sound.toReception.toAnswer (mem_of_lookup? found) with
        ⟨stored, _⟩ | ⟨verdict, said, judged⟩
      · exact .inl ⟨id, stored, arrived⟩
      · exact .inr ⟨id, verdict, said, judged⟩

/-- A message with a receipt that is still known after a notice was known before, and the notice has
not released it. -/
theorem Sound.knows_of_knows_see (sound : course.Sound) (isOpen : course.receiverOpen = true)
    {stream : StreamId} (ahead : course.Ahead stream) {notice : Notice} {rest : List Notice}
    (front : (course.forth stream).inFlight = notice :: rest) {id : MessageId}
    (finished : id.toNat < course.receipts.length) (known : (course.see stream notice).Knows id) :
    course.Knows id ∧ notice ≠ .release id := by
  obtain ⟨disposition, listed⟩ := known
  cases notice with
  | release other =>
    obtain ⟨before, kept⟩ := List.mem_filter.mp listed
    refine ⟨⟨disposition, before⟩, ?_⟩
    rintro ⟨⟩
    obtain ⟨verdict, judged⟩ := exists_judged finished
    have standing := (sound.known id disposition before).2
    rw [standing_of_judged judged] at standing
    subst standing
    cases verdict <;> simp [Disposition.ofVerdict] at kept
  | data other body =>
    refine ⟨?_, by simp⟩
    cases found : lookup? course.inbound other with
    | some _ =>
      rw [see_known found] at listed
      exact ⟨disposition, listed⟩
    | none =>
      have number := sound.next isOpen ahead front (lookup?_eq_none.mp found)
      rw [see_new found] at listed
      rcases List.mem_append.mp listed with before | new
      · exact ⟨disposition, before⟩
      · obtain ⟨rfl, _⟩ := Prod.mk.inj (List.mem_singleton.mp new)
        have := sound.receipts_le_received
        omega

theorem Homeward.see (sound : course.Sound) (isOpen : course.receiverOpen = true)
    {stream : StreamId} (ahead : course.Ahead stream) {notice : Notice} {rest : List Notice}
    (front : (course.forth stream).inFlight = notice :: rest) :
    (course.see stream notice).Homeward where
  stored other id inFlight := by
    rcases Lane.mem_put inFlight with inFlight | ⟨_, reply⟩
    · exact Nat.lt_of_lt_of_le (sound.stored other id inFlight) (received_le_see stream notice)
    · rcases sound.mem_reply isOpen ahead front reply with ⟨_, same, arrived⟩ | ⟨_, _, same, _⟩
      · obtain rfl := Answer.stored.inj same
        exact arrived
      · cases same
  settled other id verdict inFlight := by
    rcases Lane.mem_put inFlight with inFlight | ⟨_, reply⟩
    · exact sound.settled other id verdict inFlight
    · rcases sound.mem_reply isOpen ahead front reply with ⟨_, same, _⟩ | ⟨_, _, same, judged⟩
      · cases same
      · obtain ⟨rfl, rfl⟩ := Answer.settled.inj same
        exact judged
  answered other receiving whole hearing id finished known := by
    obtain ⟨known, unreleased⟩ := sound.knows_of_knows_see isOpen ahead front finished known
    have wholeForth :
        ((course.see stream notice).forth other).whole = (course.forth other).whole := by
      by_cases same : other = stream
      · subst same
        simp [Course.see, Lane.pop]
      · simp [Course.see, same]
    simp only [Hearing, wholeForth] at hearing
    simp only [Course.see, Lane.put_whole] at whole
    rcases sound.answered other receiving whole hearing id finished known with
      ⟨verdict, said⟩ | released
    · exact .inl ⟨verdict, Lane.mem_put_of_mem said _ _⟩
    · right
      by_cases same : other = stream
      · subst same
        simp only [Course.see, Function.update_self, Lane.pop]
        rw [front] at released ⊢
        rcases List.mem_cons.mp released with same | released
        · exact absurd same.symm unreleased
        · exact released
      · simpa [Course.see, same] using released

theorem Sound.see (sound : course.Sound) (isOpen : course.receiverOpen = true) {stream : StreamId}
    (attached : stream ∈ course.receiverStreams) (ahead : course.Ahead stream) {notice : Notice}
    {rest : List Notice} (front : (course.forth stream).inFlight = notice :: rest) :
    (course.see stream notice).Sound where
  toOutbox := sound.toOutbox.see stream notice
  toReporting := { sound.toReporting with }
  toReception := .see sound isOpen ahead front
  toOutward := sound.toOutward.see stream notice
  toContinuous := .see sound isOpen attached ahead front
  toHomeward := .see sound isOpen ahead front

/-- Notices that the receiver does not heed came on a stream that it has given up, or after it has
closed. -/
theorem Sound.receiverIgnore (sound : course.Sound) {stream : StreamId} {rest : List Notice}
    (given : course.receiverOpen = true → ¬ course.Ahead stream)
    (fewer : rest.Sublist (course.forth stream).inFlight) :
    (course.receiverIgnore stream rest).Sound := by
  have fewer := Lane.sublist_update { course.forth stream with inFlight := rest } fewer
  have outward := sound.toOutward.thin fewer
  have different : ∀ other, course.receiverOpen = true → course.Ahead other → other ≠ stream := by
    rintro other isOpen ahead rfl
    exact given isOpen ahead
  refine { sound with toOutward := outward, toContinuous := ?_, toHomeward := ?_ }
  · constructor
    · intro isOpen id arrived unknown
      obtain ⟨retired, absent⟩ := sound.gone isOpen id arrived unknown
      exact ⟨retired, fun other ahead body inFlight =>
        absent other ahead body ((fewer other).subset inFlight)⟩
    · intro isOpen other ahead before id body after inFlight
      simp only [Course.receiverIgnore, ne_eq, different other isOpen ahead, not_false_eq_true,
        Function.update_of_ne] at inFlight
      exact sound.gapless isOpen other ahead before id body after inFlight
    · intro isOpen other attached whole ahead
      simp only [Course.receiverIgnore, ne_eq, different other isOpen ahead, not_false_eq_true,
        Function.update_of_ne] at whole ⊢
      exact sound.complete isOpen other attached whole ahead
  · refine { sound.toHomeward with answered := ?_ }
    intro other receiving whole hearing id finished known
    have receiving : course.receiverStream = some other := receiving
    have isOpen : course.receiverOpen = true := by
      by_contra closed
      rw [(sound.emptied (eq_false_of_ne_true closed)).2] at receiving
      cases receiving
    have different := different other isOpen (sound.newestReceiver other receiving).2
    simp only [Course.receiverIgnore, Hearing, ne_eq, different, not_false_eq_true,
      Function.update_of_ne] at hearing ⊢
    exact sound.answered other receiving whole hearing id finished known

/-! ## The receiver attaches a stream -/

/-- A course whose receiver has gone ahead to later streams. -/
theorem Continuous.ahead (continuous : course.Continuous) (receiverStream : Option StreamId)
    {receiverStreams : List StreamId}
    (more : ∀ earlier ∈ course.receiverStreams, earlier ∈ receiverStreams)
    (back : StreamId → Lane Answer) :
    Continuous { course with receiverStream, receiverStreams, back } where
  gone isOpen id arrived unknown := by
    obtain ⟨given, absent⟩ := continuous.gone isOpen id arrived unknown
    exact ⟨given, fun stream ahead => absent stream fun earlier before =>
      ahead earlier (more earlier before)⟩
  gapless isOpen stream ahead := continuous.gapless isOpen stream fun earlier before =>
    ahead earlier (more earlier before)
  complete isOpen stream attached whole ahead := continuous.complete isOpen stream attached whole
    fun earlier before => ahead earlier (more earlier before)

theorem Sound.receiverAttach (sound : course.Sound) {stream : StreamId} {announced : List Answer}
    (isOpen : course.receiverOpen = true)
    (later : ∀ earlier ∈ course.receiverStreams, earlier < stream)
    (everything : ∀ answer, answer ∈ announced ↔
      ∃ id disposition, (id, disposition) ∈ course.inbound ∧
        answer = disposition.toAnswer id) :
    (course.receiverAttach stream announced).Sound := by
  refine
    { sound with
      toReception := ?_
      toOutward := { sound.toOutward with }
      toContinuous := sound.toContinuous.ahead _ (fun _ before => List.mem_append_left _ before) _
      toHomeward := ?_ }
  · refine { sound.toReception with emptied := ?_, newestReceiver := ?_ }
    · intro closed
      simp [Course.receiverAttach, isOpen] at closed
    · intro other attached
      obtain rfl := Option.some.inj attached
      refine ⟨List.mem_append_right _ (List.mem_singleton_self _), fun earlier listed => ?_⟩
      rcases List.mem_append.mp listed with before | last
      · exact Nat.le_of_lt (later earlier before)
      · exact Nat.le_of_eq (List.mem_singleton.mp last)
  · constructor
    · intro other id inFlight
      rcases Lane.mem_put inFlight with inFlight | ⟨_, new⟩
      · exact sound.stored other id inFlight
      · obtain ⟨known, disposition, listed, same⟩ := (everything _).mp new
        rcases sound.toReception.toAnswer listed with ⟨stored, _⟩ | ⟨_, said, _⟩
        · obtain rfl := Answer.stored.inj (same.trans stored)
          exact (sound.known _ _ listed).1
        · cases same.trans said
    · intro other id verdict inFlight
      rcases Lane.mem_put inFlight with inFlight | ⟨_, new⟩
      · exact sound.settled other id verdict inFlight
      · obtain ⟨known, disposition, listed, same⟩ := (everything _).mp new
        rcases sound.toReception.toAnswer listed with ⟨stored, _⟩ | ⟨_, said, judged⟩
        · cases same.trans stored
        · obtain ⟨rfl, rfl⟩ := Answer.settled.inj (same.trans said)
          exact judged
    · rintro other attached whole _ id finished ⟨disposition, listed⟩
      obtain rfl := Option.some.inj attached
      simp only [Course.receiverAttach, Lane.put_whole] at whole ⊢
      rcases sound.toReception.toAnswer listed with ⟨_, unfinished⟩ | ⟨verdict, said, _⟩
      · exact absurd finished (Nat.not_lt_of_le unfinished)
      · exact .inl ⟨verdict, Lane.mem_put_of_whole whole
          ((everything _).mpr ⟨id, disposition, listed, said.symm⟩)⟩

/-- A course whose receiver writes no more on any stream. -/
theorem Sound.receiverDetach (sound : course.Sound) {receiverStreams : List StreamId}
    (more : ∀ earlier ∈ course.receiverStreams, earlier ∈ receiverStreams) :
    Sound { course with receiverStream := none, receiverStreams } :=
  { sound with
    toReception :=
      { sound.toReception with
        emptied := fun closed => ⟨(sound.emptied closed).1, rfl⟩
        newestReceiver := fun _ attached => by cases attached }
    toOutward := { sound.toOutward with }
    toContinuous := sound.toContinuous.ahead none more course.back
    toHomeward := { sound.toHomeward with answered := fun _ attached => by cases attached } }

theorem Sound.receiverAttachInVain (sound : course.Sound) (stream : StreamId) :
    (course.receiverAttachInVain stream).Sound :=
  sound.receiverDetach fun _ before => List.mem_append_left _ before

/-! ## The receiver loses its stream, or closes -/

theorem Sound.receiverLose (sound : course.Sound) : course.receiverLose.Sound :=
  sound.receiverDetach fun _ before => before

theorem Sound.receiverClose (sound : course.Sound) : course.receiverClose.Sound :=
  { sound with
    toReception :=
      { sound.toReception with
        known := fun _ _ listed => by cases listed
        held := fun isOpen => by cases isOpen
        emptied := fun _ => ⟨rfl, rfl⟩
        newestReceiver := fun _ attached => by cases attached }
    toContinuous :=
      { gone := fun isOpen => by cases isOpen
        gapless := fun isOpen => by cases isOpen
        complete := fun isOpen => by cases isOpen }
    toHomeward := { sound.toHomeward with answered := fun _ attached => by cases attached } }

/-! ## The receiver takes a message, and ends with it -/

theorem Sound.hand (sound : course.Sound) {id : MessageId} {body : Bytes}
    {rest : List (MessageId × Bytes)} (idle : course.busy = none)
    (front : course.waiting = (id, body) :: rest) : (course.hand id body rest).Sound := by
  have same : (course.hand id body rest).received = course.received := by
    simp only [received, Course.hand, front, List.length_append, List.length_cons, List.length_nil]
    omega
  have numbered := sound.numbered
  rw [front, List.map_cons, List.length_cons, List.range'_succ] at numbered
  obtain ⟨number, numbers⟩ := List.cons.inj numbered
  refine
    { sound with
      toOutbox := { sound.toOutbox with freed := by rw [same]; exact sound.freed }
      toReporting := { sound.toReporting with }
      toReception := ?_
      toOutward := { sound.toOutward with }
      toContinuous :=
        { gone := by rw [same]; exact sound.gone
          gapless := by rw [same]; exact sound.gapless
          complete := by rw [same]; exact sound.complete }
      toHomeward := { sound.toHomeward with stored := by rw [same]; exact sound.stored } }
  refine
    { sound.toReception with
      inOrder := ?_
      numbered := ?_
      idle := fun none => by cases none
      engaged := fun other busy => ?_
      known := by rw [same]; exact sound.known
      held := by rw [same]; exact sound.held }
  · have inOrder := sound.inOrder
    rw [front] at inOrder
    rw [same]
    refine Eq.trans ?_ inOrder
    simp [Course.hand]
  · simpa [Course.hand] using numbers
  · obtain rfl := Option.some.inj busy
    have idle := sound.idle idle
    simp only [Course.hand, List.length_append, List.length_singleton]
    exact ⟨number.trans idle.symm, by omega⟩

theorem Judged.grow {other : Course} {id : MessageId} {verdict : Except String Unit}
    (judged : course.Judged id verdict) (longer : course.receipts <+: other.receipts) :
    other.Judged id verdict := by
  obtain ⟨receipt, found, same⟩ := judged
  exact ⟨receipt, getElem?_of_isPrefix longer found, same⟩

theorem Told.grow {other : Course} {ticket : Ticket} {outcome : Outcome}
    (told : course.Told ticket outcome) (longer : course.receipts <+: other.receipts)
    (same : course.senderOpen = other.senderOpen) : other.Told ticket outcome := by
  cases outcome with
  | ok _ =>
    obtain ⟨receipt, found, verdict⟩ := told
    exact ⟨receipt, getElem?_of_isPrefix longer found, verdict⟩
  | error error =>
    cases error with
    | rejected id reason =>
      obtain ⟨number, receipt, found, verdict⟩ := told
      exact ⟨number, receipt, getElem?_of_isPrefix longer found, verdict⟩
    | closed => exact same.symm.trans told
    | _ => exact told

/-- The standing of a message does not change with the receipts for others. -/
theorem standing_append {other : Course} {receipt : Receipt}
    (same : other.receipts = course.receipts ++ [receipt]) {id : MessageId}
    (different : id.toNat ≠ course.receipts.length) : other.standing id = course.standing id := by
  have found : (course.receipts ++ [receipt])[id.toNat]? = course.receipts[id.toNat]? := by
    rcases Nat.lt_or_gt_of_ne different with earlier | later
    · exact List.getElem?_append_left earlier
    · rw [List.getElem?_eq_none, List.getElem?_eq_none (Nat.le_of_lt later)]
      simpa using Nat.succ_le_of_lt later
  simp [standing, same, found]

theorem Outbox.receipt (outbox : course.Outbox) (receipt : Receipt) :
    Outbox { course with receipts := course.receipts ++ [receipt] } :=
  { outbox with
    retired := fun isOpen id bound given => by
      rw [List.length_append]
      exact Nat.lt_add_right _ (outbox.retired isOpen id bound given) }

theorem Reporting.receipt (reporting : course.Reporting) (receipt : Receipt) :
    Reporting { course with receipts := course.receipts ++ [receipt] } :=
  { reporting with
    truthful := fun ticket outcome told =>
      (reporting.truthful ticket outcome told).grow (List.prefix_append _ _) rfl }

theorem Outward.receipt (outward : course.Outward) (receipt : Receipt) :
    Outward { course with receipts := course.receipts ++ [receipt] } :=
  { outward with
    released := fun stream id inFlight => by
      rw [List.length_append]
      exact (outward.released stream id inFlight).imp_left (Nat.lt_add_right _) }

theorem judged_receipt {id : MessageId} (receipt : Receipt)
    (number : id.toNat = course.receipts.length) :
    Judged { course with receipts := course.receipts ++ [receipt] } id receipt.verdict :=
  ⟨receipt, by simp [number], rfl⟩

/-- After a verdict the inbound table has the same messages. -/
theorem mem_judged {id other : MessageId} {receipt : Receipt} {disposition : Disposition} :
    (other, disposition) ∈ course.judged id receipt ↔
      (other ≠ id ∧ (other, disposition) ∈ course.inbound) ∨
        (other = id ∧ course.Knows id ∧ disposition = .ofVerdict receipt.verdict) := by
  simp only [judged, List.mem_map, Knows]
  constructor
  · rintro ⟨⟨known, before⟩, listed, same⟩
    by_cases matching : known = id
    · rw [if_pos matching] at same
      obtain ⟨rfl, rfl⟩ := Prod.mk.inj same
      exact .inr ⟨rfl, ⟨before, matching ▸ listed⟩, rfl⟩
    · rw [if_neg matching] at same
      obtain ⟨rfl, rfl⟩ := Prod.mk.inj same
      exact .inl ⟨matching, listed⟩
  · rintro (⟨different, listed⟩ | ⟨rfl, ⟨before, listed⟩, rfl⟩)
    · exact ⟨_, listed, if_neg different⟩
    · exact ⟨_, listed, if_pos rfl⟩

theorem knows_conclude {id other : MessageId} {receipt : Receipt} :
    (course.conclude id receipt).Knows other ↔ course.Knows other := by
  refine ⟨?_, ?_⟩
  · rintro ⟨disposition, listed⟩
    rcases mem_judged.mp listed with ⟨_, listed⟩ | ⟨rfl, known, _⟩
    · exact ⟨disposition, listed⟩
    · exact known
  · rintro ⟨disposition, listed⟩
    by_cases same : other = id
    · subst same
      exact ⟨_, mem_judged.mpr (.inr ⟨rfl, ⟨disposition, listed⟩, rfl⟩)⟩
    · exact ⟨disposition, mem_judged.mpr (.inl ⟨same, listed⟩)⟩

theorem Reception.conclude (sound : course.Sound) (isOpen : course.receiverOpen = true)
    {id : MessageId} (busy : course.busy = some id) (receipt : Receipt) :
    (course.conclude id receipt).Reception := by
  obtain ⟨number, next⟩ := sound.engaged id busy
  have length : (course.conclude id receipt).receipts.length = course.receipts.length + 1 := by
    simp [Course.conclude]
  refine
    { sound.toReception with
      idle := fun _ => length.trans next
      engaged := fun other still => by cases still
      known := ?_
      held := ?_
      emptied := fun closed => by simp [Course.conclude, isOpen] at closed }
  · intro other disposition listed
    rcases mem_judged.mp listed with ⟨different, known⟩ | ⟨rfl, ⟨before, known⟩, rfl⟩
    · obtain ⟨arrived, standing⟩ := sound.known other disposition known
      refine ⟨arrived, standing.trans (standing_append rfl fun same => ?_).symm⟩
      exact different (MessageId.toNat_inj.mp (same.trans number.symm))
    · exact ⟨(sound.known other before known).1,
        (standing_of_judged (judged_receipt receipt number)).symm⟩
  · intro _ other unfinished arrived
    rw [length] at unfinished
    refine mem_judged.mpr
      (.inl ⟨?_, sound.held isOpen other (Nat.le_of_succ_le unfinished) arrived⟩)
    rintro rfl
    omega

theorem Homeward.conclude (sound : course.Sound) {id : MessageId} (busy : course.busy = some id)
    (receipt : Receipt) : (course.conclude id receipt).Homeward where
  stored other known inFlight := by
    rcases Lane.mem_put inFlight with inFlight | ⟨_, new⟩
    · exact sound.stored other known inFlight
    · cases List.mem_singleton.mp new
  settled other known verdict inFlight := by
    rcases Lane.mem_put inFlight with inFlight | ⟨_, new⟩
    · exact (sound.settled other known verdict inFlight).grow (List.prefix_append _ _)
    · obtain ⟨rfl, rfl⟩ := Answer.settled.inj (List.mem_singleton.mp new)
      exact judged_receipt receipt (sound.engaged known busy).1
  answered other receiving whole hearing known finished still := by
    have receiving : course.receiverStream = some other := receiving
    simp only [Course.conclude, Lane.put_whole, List.length_append, List.length_singleton] at *
    rcases Nat.lt_succ_iff_lt_or_eq.mp finished with before | last
    · rcases sound.answered other receiving whole hearing known before
        (knows_conclude.mp still) with
        ⟨verdict, said⟩ | released
      · exact .inl ⟨verdict, Lane.mem_put_of_mem said _ _⟩
      · exact .inr released
    · obtain rfl := MessageId.toNat_inj.mp (last.trans (sound.engaged id busy).1.symm)
      rw [receiving]
      exact .inl ⟨_, Lane.mem_put_of_whole whole (List.mem_singleton_self _)⟩

theorem Sound.conclude (sound : course.Sound) (isOpen : course.receiverOpen = true)
    {id : MessageId} (busy : course.busy = some id) (receipt : Receipt) :
    (course.conclude id receipt).Sound where
  toOutbox := { sound.toOutbox.receipt receipt with }
  toReporting := { sound.toReporting.receipt receipt with }
  toReception := .conclude sound isOpen busy receipt
  toOutward := { sound.toOutward.receipt receipt with }
  toContinuous :=
    { sound.toContinuous with
      gone := fun isOpen other arrived unknown =>
        sound.gone isOpen other arrived fun known => unknown (knows_conclude.mpr known) }
  toHomeward := .conclude sound busy receipt

theorem Sound.concludeClosed (sound : course.Sound) (closed : course.receiverOpen = false)
    {id : MessageId} (busy : course.busy = some id) (receipt : Receipt) :
    (course.concludeClosed receipt).Sound := by
  obtain ⟨nothing, nowhere⟩ := sound.emptied closed
  have length : (course.concludeClosed receipt).receipts.length = course.receipts.length + 1 := by
    simp [Course.concludeClosed]
  exact
    { sound with
      toOutbox := { sound.toOutbox.receipt receipt with }
      toReporting := { sound.toReporting.receipt receipt with }
      toReception :=
        { sound.toReception with
          idle := fun _ => length.trans (sound.engaged id busy).2
          engaged := fun other still => by cases still
          known := fun other disposition listed => by
            rw [show (course.concludeClosed receipt).inbound = [] from nothing] at listed
            cases listed
          held := fun isOpen => by simp [Course.concludeClosed, closed] at isOpen }
      toOutward := { sound.toOutward.receipt receipt with }
      toContinuous := { sound.toContinuous with }
      toHomeward :=
        { sound.toHomeward with
          settled := fun stream other verdict inFlight =>
            (sound.settled stream other verdict inFlight).grow (List.prefix_append _ _)
          answered := fun other receiving => by
            rw [show (course.concludeClosed receipt).receiverStream = none from nowhere]
              at receiving
            cases receiving } }

end Course

end Courier
