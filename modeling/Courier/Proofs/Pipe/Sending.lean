import Courier.Proofs.Pipe.Sound

/-!
# Changes at the sender

Everything that the sender does keeps a course sound: it accepts a message,
attaches a stream, loses it or closes, and hears an answer or does not heed it.

A new message takes the next id, so on a stream that has lost nothing it stands
behind every message that has not arrived.  On a new stream all those are sent
again, because the sender drops a body only after the message has arrived, and
gives a message up only after it has a receipt.
-/

namespace Courier

set_option autoImplicit false

namespace Course

variable {course : Course}

/-! ## A message is accepted -/

theorem holds_enter {id : MessageId} {body : Bytes} (other : MessageId) :
    (course.enter id body).Holds other ↔ course.Holds other ∨ other = id := by
  simp [Holds, enter, or_and_right, exists_or, eq_comm]

theorem Outbox.enter (outbox : course.Outbox) {id : MessageId} (body : Bytes)
    (numbered : id.toNat = course.accepted.length) : (course.enter id body).Outbox where
  place entry listed := by
    simp only [Course.enter, List.mem_append, List.mem_singleton, List.length_append,
      List.length_singleton] at listed ⊢
    rcases listed with listed | rfl
    · obtain ⟨ticket, bound⟩ := outbox.place entry listed
      exact ⟨ticket, Nat.lt_succ_of_lt bound⟩
    · exact ⟨numbered.symm, Nat.lt_succ_of_le (Nat.le_of_eq numbered)⟩
  ascending := by
    simp only [Course.enter, List.pairwise_append, List.pairwise_singleton, List.mem_singleton,
      forall_eq, true_and]
    refine ⟨outbox.ascending, fun entry listed => ?_⟩
    rw [numbered]
    exact (outbox.place entry listed).2
  body entry listed content kept := by
    simp only [Course.enter, List.mem_append, List.mem_singleton] at listed ⊢
    rcases listed with listed | rfl
    · rw [List.getElem?_append_left (outbox.place entry listed).2]
      exact outbox.body entry listed content kept
    · obtain rfl := Option.some.inj kept
      simp [numbered]
  freed entry listed dropped := by
    simp only [Course.enter, List.mem_append, List.mem_singleton] at listed
    rcases listed with listed | rfl
    · exact outbox.freed entry listed dropped
    · cases dropped
  retired isOpen other bound given := by
    rw [holds_enter, not_or] at given
    refine outbox.retired isOpen other ?_ given.1
    have different : other.toNat ≠ id.toNat := fun same => given.2 (MessageId.toNat_inj.mp same)
    simp only [Course.enter, List.length_append, List.length_singleton] at bound
    omega

theorem Reporting.enter (reporting : course.Reporting) {id : MessageId} (body : Bytes) :
    (course.enter id body).Reporting where
  once := reporting.once
  fresh entry listed := by
    simp only [Course.enter, List.mem_append, List.mem_singleton] at listed
    rcases listed with listed | rfl
    · exact reporting.fresh entry listed
    · exact fun told => Nat.lt_irrefl _ (reporting.sent _ told)
  truthful := reporting.truthful
  sent ticket told := by
    simp only [Course.enter, List.length_append, List.length_singleton]
    exact Nat.lt_succ_of_lt (reporting.sent ticket told)
  accounted ticket bound := by
    simp only [Course.enter, List.length_append, List.length_singleton, List.map_append,
      List.mem_append] at bound ⊢
    rcases Nat.lt_or_eq_of_le (Nat.le_of_lt_succ bound) with earlier | rfl
    · exact (reporting.accounted ticket earlier).imp_right .inl
    · exact .inr (.inr (List.mem_singleton_self _))

theorem Outward.enter (sound : course.Sound) {id : MessageId} (body : Bytes)
    (numbered : id.toNat = course.accepted.length) : (course.enter id body).Outward where
  carried stream other content inFlight := by
    simp only [Course.enter] at inFlight ⊢
    rcases Lane.mem_put inFlight with inFlight | ⟨_, new⟩
    · have found := sound.carried stream other content inFlight
      rwa [List.getElem?_append_left (List.getElem?_eq_some_iff.mp found).1]
    · simp only [List.mem_singleton, Notice.data.injEq] at new
      obtain ⟨rfl, rfl⟩ := new
      simp [numbered]
  released stream other inFlight := by
    rcases Lane.mem_put inFlight with inFlight | ⟨_, new⟩
    · obtain ⟨earlier, given⟩ := sound.released stream other inFlight
      refine ⟨earlier, fun holds => ?_⟩
      rcases (holds_enter other).mp holds with holds | rfl
      · exact given holds
      · have := sound.toReception.receipts_le_accepted
        omega
    · simp at new
  final stream := by
    rcases Lane.put_inFlight course.forth course.senderStream [.data id body] stream with
      same | ⟨_, _, longer⟩
    · simp only [Course.enter]
      rw [same]
      exact sound.final stream
    · simp only [Course.enter]
      rw [longer, List.pairwise_append]
      refine ⟨sound.final stream, List.pairwise_singleton _ _, ?_⟩
      -- What was released before has a receipt, which the new message cannot have.
      rintro earlier inFlight later new released content rfl rfl
      simp only [List.mem_singleton, Notice.data.injEq] at new
      obtain ⟨rfl, rfl⟩ := new
      have := (sound.released stream released inFlight).1
      have := sound.toReception.receipts_le_accepted
      omega
  finalAcross stream later other content order released sent := by
    rcases Lane.mem_put released with inFlight | ⟨_, new⟩
    · rcases Lane.mem_put sent with sent | ⟨_, new⟩
      · exact sound.finalAcross stream later other content order inFlight sent
      · simp only [List.mem_singleton, Notice.data.injEq] at new
        obtain ⟨rfl, rfl⟩ := new
        have := (sound.released stream other inFlight).1
        have := sound.toReception.receipts_le_accepted
        omega
    · simp at new
  written stream unknown := by
    rcases Lane.put_inFlight course.forth course.senderStream [.data id body] stream with
      same | ⟨there, _, _⟩
    · simp only [Course.enter]
      rw [same]
      exact sound.written stream unknown
    · exact absurd (sound.newestSender stream there).1 unknown
  newestSender := sound.newestSender
  shut := sound.shut

theorem Continuous.enter (sound : course.Sound) {id : MessageId} (body : Bytes)
    (numbered : id.toNat = course.accepted.length) : (course.enter id body).Continuous where
  gone isOpen other arrived unknown := by
    have arrived' : other.toNat < course.received := arrived
    have bound := sound.received_le
    obtain ⟨given, absent⟩ := sound.gone isOpen other arrived unknown
    refine ⟨fun holds => ?_, fun stream ahead content inFlight => ?_⟩
    · rcases (holds_enter other).mp holds with holds | rfl
      · exact given holds
      · omega
    · rcases Lane.mem_put inFlight with inFlight | ⟨_, new⟩
      · exact absent stream ahead content inFlight
      · simp only [List.mem_singleton, Notice.data.injEq] at new
        obtain ⟨rfl, rfl⟩ := new
        omega
  gapless isOpen stream ahead before other content after inFlight missing unarrived earlier := by
    rcases Lane.put_inFlight course.forth course.senderStream [.data id body] stream with
      same | ⟨there, whole, longer⟩
    · refine sound.gapless isOpen stream ahead before other content after ?_ missing unarrived
        earlier
      rw [← same]
      exact inFlight
    · simp only [Course.enter] at inFlight
      rw [longer] at inFlight
      rcases List.eq_nil_or_concat after with rfl | ⟨after, last, rfl⟩
      · -- The new message: the stream brings everything that has not arrived.
        obtain ⟨rfl, new⟩ := List.append_inj' inFlight rfl
        simp only [List.cons.injEq, Notice.data.injEq, and_true] at new
        obtain ⟨rfl, rfl⟩ := new
        refine sound.complete isOpen stream there whole ahead missing unarrived ?_
        omega
      · have split : (course.forth stream).inFlight ++ [Notice.data id body]
            = (before ++ .data other content :: after) ++ [last] := by
          rw [inFlight]
          simp
        obtain ⟨inFlight, _⟩ := List.append_inj' split rfl
        exact sound.gapless isOpen stream ahead before other content after inFlight missing
          unarrived earlier
  complete isOpen stream attached whole ahead other unarrived bound := by
    simp only [Course.enter, Lane.put_whole, List.length_append, List.length_singleton] at *
    by_cases last : other = id
    · subst last
      rw [attached]
      exact ⟨body, Lane.mem_put_of_whole whole (List.mem_singleton_self _)⟩
    · have different : other.toNat ≠ id.toNat := fun same =>
        last (by rw [← MessageId.ofNat_toNat other, same, MessageId.ofNat_toNat])
      obtain ⟨content, inFlight⟩ :=
        sound.complete isOpen stream attached whole ahead other unarrived (by omega)
      exact ⟨content, Lane.mem_put_of_mem inFlight _ _⟩

theorem Reception.enter (reception : course.Reception) (id : MessageId) (body : Bytes) :
    (course.enter id body).Reception := by
  refine { reception with inOrder := ?_ }
  change _ = (course.accepted ++ [body]).take course.received
  rw [List.take_append_of_le_length reception.received_le]
  exact reception.inOrder

/-- What the sender writes besides takes nothing away from what is in flight. -/
theorem Homeward.write (homeward : course.Homeward) (written : Option StreamId)
    (items : List Notice) :
    Homeward { course with forth := Lane.put course.forth written items } := by
  refine { homeward with answered := ?_ }
  intro stream attached whole hearing id finished known
  have hearing : course.Hearing stream := by
    simpa only [Hearing, Lane.put_whole] using hearing
  rcases homeward.answered stream attached whole hearing id finished known with said | released
  · exact .inl said
  · exact .inr (Lane.mem_put_of_mem released _ _)

theorem Sound.enter (sound : course.Sound) {id : MessageId} (body : Bytes)
    (numbered : id.toNat = course.accepted.length) : (course.enter id body).Sound where
  toOutbox := sound.toOutbox.enter body numbered
  toReporting := sound.toReporting.enter body
  toReception := sound.toReception.enter id body
  toOutward := .enter sound body numbered
  toContinuous := .enter sound body numbered
  toHomeward := { sound.toHomeward.write course.senderStream [.data id body] with }

/-! ## The sender attaches a stream -/

theorem mem_unconfirmed {notice : Notice} (listed : notice ∈ course.unconfirmed) :
    ∃ entry ∈ course.outbound, ∃ body, entry.body = some body ∧ notice = .data entry.id body := by
  obtain ⟨entry, held, said⟩ := List.mem_filterMap.mp listed
  obtain ⟨body, kept, rfl⟩ := Option.map_eq_some_iff.mp said
  exact ⟨entry, held, body, kept, rfl⟩

/-- Every message that has not arrived is sent again. -/
theorem unconfirmed_complete (sound : course.Sound) (isOpen : course.senderOpen = true)
    {missing : MessageId} (unarrived : course.received ≤ missing.toNat)
    (bound : missing.toNat < course.accepted.length) :
    ∃ content, .data missing content ∈ course.unconfirmed := by
  by_cases holds : course.Holds missing
  · obtain ⟨entry, held, rfl⟩ := holds
    cases kept : entry.body with
    | none =>
      have := sound.freed entry held kept
      omega
    | some content => exact ⟨content, List.mem_filterMap.mpr ⟨entry, held, by simp [kept]⟩⟩
  · have := sound.retired isOpen missing bound holds
    have := sound.receipts_le_received
    omega

theorem unconfirmed_ascending (outbox : course.Outbox) :
    course.unconfirmed.Pairwise fun earlier later => ∀ first content second other,
      earlier = .data first content → later = .data second other →
      first.toNat < second.toNat := by
  refine List.pairwise_filterMap.mpr (outbox.ascending.imp fun order => ?_)
  intro earlier said later saidLater first content second other earlierEq laterEq
  subst earlierEq laterEq
  obtain ⟨_, _, same⟩ := Option.map_eq_some_iff.mp said
  obtain ⟨_, _, sameLater⟩ := Option.map_eq_some_iff.mp saidLater
  simp only [Notice.data.injEq] at same sameLater
  rw [← same.1, ← sameLater.1]
  exact order

/-- Before a message that is sent again stands every one that has not arrived and comes before it.
-/
theorem unconfirmed_gapless (sound : course.Sound) (isOpen : course.senderOpen = true)
    {before after : List Notice} {id : MessageId} {body : Bytes}
    (split : course.unconfirmed = before ++ .data id body :: after) {missing : MessageId}
    (unarrived : course.received ≤ missing.toNat) (earlier : missing.toNat < id.toNat) :
    ∃ content, .data missing content ∈ before := by
  have listed : Notice.data id body ∈ course.unconfirmed := by simp [split]
  obtain ⟨entry, held, _, _, same⟩ := mem_unconfirmed listed
  obtain ⟨rfl, _⟩ := Notice.data.inj same
  obtain ⟨content, found⟩ := unconfirmed_complete sound isOpen unarrived
    (Nat.lt_trans earlier (sound.place entry held).2)
  have ascending := unconfirmed_ascending sound.toOutbox
  rw [split, List.pairwise_append, List.pairwise_cons] at ascending
  rw [split, List.mem_append, List.mem_cons] at found
  rcases found with found | found | found
  · exact ⟨content, found⟩
  · obtain ⟨rfl, _⟩ := Notice.data.inj found
    exact absurd earlier (Nat.lt_irrefl _)
  · have := ascending.2.1.1 _ found _ _ _ _ rfl rfl
    omega

theorem Outward.senderAttach (sound : course.Sound) {stream : StreamId}
    (isOpen : course.senderOpen = true)
    (later : ∀ earlier ∈ course.senderStreams, earlier < stream) :
    (course.senderAttach stream).Outward where
  carried other id content inFlight := by
    rcases Lane.mem_put inFlight with inFlight | ⟨_, again⟩
    · exact sound.carried other id content inFlight
    · obtain ⟨entry, held, body, kept, same⟩ := mem_unconfirmed again
      obtain ⟨rfl, rfl⟩ := Notice.data.inj same
      exact sound.body entry held _ kept
  released other id inFlight := by
    rcases Lane.mem_put inFlight with inFlight | ⟨_, again⟩
    · exact sound.released other id inFlight
    · obtain ⟨_, _, _, _, same⟩ := mem_unconfirmed again
      cases same
  final other := by
    rcases Lane.put_inFlight course.forth (some stream) course.unconfirmed other with
      same | ⟨_, _, longer⟩
    · simp only [Course.senderAttach]
      rw [same]
      exact sound.final other
    · simp only [Course.senderAttach]
      rw [longer, List.pairwise_append]
      refine ⟨sound.final other, ?_, ?_⟩
      · refine (unconfirmed_ascending sound.toOutbox).imp_of_mem ?_
        rintro earlier _ again _ _ id _ rfl
        obtain ⟨_, _, _, _, same⟩ := mem_unconfirmed again
        cases same
      · rintro earlier inFlight _ again id content rfl rfl
        obtain ⟨entry, held, _, _, same⟩ := mem_unconfirmed again
        obtain ⟨rfl, _⟩ := Notice.data.inj same
        exact (sound.released other entry.id inFlight).2 ⟨entry, held, rfl⟩
  finalAcross other further id content order released sent := by
    rcases Lane.mem_put released with released | ⟨_, again⟩
    · rcases Lane.mem_put sent with sent | ⟨_, again⟩
      · exact sound.finalAcross other further id content order released sent
      · obtain ⟨entry, held, _, _, same⟩ := mem_unconfirmed again
        obtain ⟨rfl, _⟩ := Notice.data.inj same
        exact (sound.released other entry.id released).2 ⟨entry, held, rfl⟩
    · obtain ⟨_, _, _, _, same⟩ := mem_unconfirmed again
      cases same
  written other unknown := by
    simp only [Course.senderAttach, List.mem_append, List.mem_singleton, not_or] at unknown ⊢
    rcases Lane.put_inFlight course.forth (some stream) course.unconfirmed other with
      same | ⟨there, _, _⟩
    · rw [same]
      exact sound.written other unknown.1
    · exact absurd (Option.some.inj there).symm unknown.2
  newestSender other attached := by
    obtain rfl := Option.some.inj attached
    refine ⟨List.mem_append_right _ (List.mem_singleton_self _), fun earlier listed => ?_⟩
    rcases List.mem_append.mp listed with before | last
    · exact Nat.le_of_lt (later earlier before)
    · exact Nat.le_of_eq (List.mem_singleton.mp last)
  shut closed := by simp [Course.senderAttach, isOpen] at closed

theorem Continuous.senderAttach (sound : course.Sound) {stream : StreamId}
    (isOpen : course.senderOpen = true)
    (later : ∀ earlier ∈ course.senderStreams, earlier < stream) :
    (course.senderAttach stream).Continuous where
  gone receiverOpen id arrived unknown := by
    obtain ⟨given, absent⟩ := sound.gone receiverOpen id arrived unknown
    refine ⟨given, fun other ahead content inFlight => ?_⟩
    rcases Lane.mem_put inFlight with inFlight | ⟨_, again⟩
    · exact absent other ahead content inFlight
    · obtain ⟨entry, held, _, _, same⟩ := mem_unconfirmed again
      obtain ⟨rfl, _⟩ := Notice.data.inj same
      exact given ⟨entry, held, rfl⟩
  gapless receiverOpen other ahead before id content after inFlight missing unarrived earlier := by
    simp only [Course.senderAttach] at inFlight
    rcases Lane.put_inFlight course.forth (some stream) course.unconfirmed other with
      same | ⟨there, _, longer⟩
    · rw [same] at inFlight
      exact sound.gapless receiverOpen other ahead before id content after inFlight missing
        unarrived earlier
    · obtain rfl := Option.some.inj there
      have empty := sound.written stream fun attached => Nat.lt_irrefl _ (later _ attached)
      rw [longer, empty, List.nil_append] at inFlight
      exact unconfirmed_gapless sound isOpen inFlight unarrived earlier
  complete receiverOpen other attached whole ahead id unarrived bound := by
    obtain rfl := Option.some.inj attached
    simp only [Course.senderAttach, Lane.put_whole] at whole ⊢
    obtain ⟨content, again⟩ := unconfirmed_complete sound isOpen unarrived bound
    exact ⟨content, Lane.mem_put_of_whole whole again⟩

theorem Homeward.senderAttach (homeward : course.Homeward) {stream : StreamId}
    (later : ∀ earlier ∈ course.senderStreams, earlier < stream) :
    (course.senderAttach stream).Homeward := by
  refine { homeward with answered := ?_ }
  intro other attached whole hearing id finished known
  -- A stream that the sender hears now it would also have heard before.
  have heard : course.Hearing other := by
    refine .inl fun earlier before => ?_
    rcases hearing with newest | ⟨there, _⟩
    · exact newest earlier (List.mem_append_left _ before)
    · obtain rfl := Option.some.inj there
      exact later earlier before
  rcases homeward.answered other attached whole heard id finished known with said | released
  · exact .inl said
  · exact .inr (Lane.mem_put_of_mem released _ _)

theorem Sound.senderAttach (sound : course.Sound) {stream : StreamId}
    (isOpen : course.senderOpen = true)
    (later : ∀ earlier ∈ course.senderStreams, earlier < stream) :
    (course.senderAttach stream).Sound :=
  { sound with
    toOutward := .senderAttach sound isOpen later
    toContinuous := .senderAttach sound isOpen later
    toHomeward := sound.toHomeward.senderAttach later }

/-- A course whose sender writes no more on any stream. -/
theorem Homeward.detach (homeward : course.Homeward) {senderStreams : List StreamId}
    (more : ∀ earlier ∈ course.senderStreams, earlier ∈ senderStreams) :
    Homeward { course with senderStream := none, senderStreams } := by
  refine { homeward with answered := ?_ }
  intro stream attached whole hearing id finished known
  rcases hearing with newest | ⟨there, _⟩
  · exact homeward.answered stream attached whole
      (.inl fun earlier before => newest earlier (more earlier before)) id finished known
  · cases there

theorem Sound.senderAttachInVain (sound : course.Sound) (stream : StreamId) :
    (course.senderAttachInVain stream).Sound := by
  refine { sound with toOutward := ?_, toContinuous := ?_, toHomeward := ?_ }
  · refine { sound.toOutward with written := ?_, newestSender := ?_, shut := ?_ }
    · intro other unknown
      exact sound.written other fun before => unknown (List.mem_append_left _ before)
    · intro other attached
      cases attached
    · intro _
      rfl
  · refine { sound.toContinuous with complete := ?_ }
    intro _ other attached
    cases attached
  · exact sound.toHomeward.detach fun earlier before => List.mem_append_left _ before

/-! ## The sender loses its stream, or closes -/

theorem Sound.senderLose (sound : course.Sound) : course.senderLose.Sound := by
  refine { sound with toOutward := ?_, toContinuous := ?_, toHomeward := ?_ }
  · refine { sound.toOutward with newestSender := ?_, shut := ?_ }
    · intro other attached
      cases attached
    · intro _
      rfl
  · refine { sound.toContinuous with complete := ?_ }
    intro _ other attached
    cases attached
  · exact sound.toHomeward.detach fun earlier before => before

theorem Reporting.senderClose (sound : course.Sound) : course.senderClose.Reporting where
  once := by
    simp only [Course.senderClose, List.map_append, List.map_map, Function.comp_def]
    refine List.nodup_append.mpr ⟨sound.once, sound.toOutbox.tickets_nodup, ?_⟩
    · rintro ticket told _ again rfl
      obtain ⟨entry, held, rfl⟩ := List.mem_map.mp again
      exact sound.fresh entry held told
  fresh entry held := by cases held
  truthful ticket outcome told := by
    rcases List.mem_append.mp told with told | now
    · have before := sound.truthful ticket outcome told
      cases outcome with
      | ok _ => exact before
      | error error => cases error <;> first | exact before | rfl
    · obtain ⟨_, _, same⟩ := List.mem_map.mp now
      obtain ⟨rfl, rfl⟩ := Prod.mk.inj same
      rfl
  sent ticket told := by
    simp only [Course.senderClose, List.map_append, List.map_map, Function.comp_def,
      List.mem_append] at told ⊢
    rcases told with told | now
    · exact sound.sent ticket told
    · obtain ⟨entry, held, rfl⟩ := List.mem_map.mp now
      obtain ⟨ticket, bound⟩ := sound.place entry held
      exact ticket ▸ bound
  accounted ticket bound := by
    simp only [Course.senderClose, List.map_append, List.map_map, Function.comp_def,
      List.mem_append]
    exact .inl (sound.accounted ticket bound)

theorem not_holds_senderClose (id : MessageId) : ¬ course.senderClose.Holds id := by
  rintro ⟨_, held, _⟩
  cases held

theorem Sound.senderClose (sound : course.Sound) : course.senderClose.Sound where
  toOutbox :=
    { place := fun _ held => by cases held
      ascending := .nil
      body := fun _ held => by cases held
      freed := fun _ held => by cases held
      retired := fun isOpen => by cases isOpen }
  toReporting := .senderClose sound
  toReception := { sound.toReception with }
  toOutward :=
    { sound.toOutward with
      released := fun stream id inFlight =>
        ⟨(sound.released stream id inFlight).1, not_holds_senderClose id⟩
      newestSender := fun _ attached => by cases attached
      shut := fun _ => rfl }
  toContinuous :=
    { sound.toContinuous with
      gone := fun isOpen id arrived unknown =>
        ⟨not_holds_senderClose id, (sound.gone isOpen id arrived unknown).2⟩
      complete := fun _ _ attached => by cases attached }
  toHomeward := { sound.toHomeward.detach fun _ before => before with }

/-! ## Answers reach the sender -/

/-- What an answer leaves in the sender's table was there before, perhaps with its body. -/
theorem mem_settle {answer : Answer} {outbound : List Outbound} {entry : Outbound}
    (left : entry ∈ answer.settle outbound) :
    entry ∈ outbound ∨ ∃ stored ∈ outbound, answer = .stored stored.id ∧
      entry = { stored with body := none } := by
  cases answer with
  | settled id verdict => exact .inl (List.mem_filter.mp left).1
  | stored id =>
    obtain ⟨stored, listed, same⟩ := List.mem_map.mp left
    by_cases matching : stored.id = id
    · rw [if_pos matching] at same
      exact .inr ⟨stored, listed, matching ▸ rfl, same.symm⟩
    · rw [if_neg matching] at same
      exact .inl (same ▸ listed)

theorem holds_hear {stream : StreamId} {answer : Answer} {id : MessageId} :
    (course.hear stream answer).Holds id ↔
      course.Holds id ∧ ∀ verdict, answer ≠ .settled id verdict := by
  cases answer with
  | stored other =>
    simp only [Holds, hear, Answer.settle, List.mem_map, exists_exists_and_eq_and, ne_eq,
      reduceCtorEq, not_false_eq_true, implies_true, and_true]
    refine exists_congr fun entry => and_congr_right fun _ => ?_
    split <;> rfl
  | settled other verdict =>
    simp only [Holds, hear, Answer.settle, List.mem_filter, decide_eq_true_eq, ne_eq,
      Answer.settled.injEq, not_and]
    constructor
    · rintro ⟨entry, ⟨listed, different⟩, rfl⟩
      exact ⟨⟨entry, listed, rfl⟩, fun _ same => absurd same.symm different⟩
    · rintro ⟨⟨entry, listed, rfl⟩, different⟩
      exact ⟨entry, ⟨listed, fun same => different verdict same.symm rfl⟩, rfl⟩

theorem settle_ascending {answer : Answer} {outbound : List Outbound}
    (ascending : outbound.Pairwise fun earlier later => earlier.id.toNat < later.id.toNat) :
    (answer.settle outbound).Pairwise fun earlier later => earlier.id.toNat < later.id.toNat := by
  cases answer with
  | settled id verdict => exact ascending.filter _
  | stored id =>
    refine List.pairwise_map.mpr (ascending.imp fun order => ?_)
    simp only [apply_ite Outbound.id, ite_self]
    exact order

theorem Outbox.hear (sound : course.Sound) {stream : StreamId} {answer : Answer}
    (said : answer ∈ (course.back stream).inFlight) : (course.hear stream answer).Outbox where
  place entry left := by
    rcases mem_settle left with listed | ⟨stored, listed, _, rfl⟩
    · exact sound.place entry listed
    · exact sound.place stored listed
  ascending := settle_ascending sound.ascending
  body entry left content kept := by
    rcases mem_settle left with listed | ⟨_, _, _, rfl⟩
    · exact sound.body entry listed content kept
    · cases kept
  freed entry left dropped := by
    rcases mem_settle left with listed | ⟨stored, listed, rfl, rfl⟩
    · exact sound.freed entry listed dropped
    · exact sound.stored stream stored.id said
  retired isOpen id bound given := by
    rw [holds_hear, not_and_or, not_forall] at given
    rcases given with given | ⟨verdict, now⟩
    · exact sound.retired isOpen id bound given
    · obtain rfl := not_not.mp now
      exact (sound.settled stream id verdict said).lt

theorem mem_reports {answer : Answer} {outbound : List Outbound} {ticket : Ticket}
    {outcome : Outcome} (told : (ticket, outcome) ∈ answer.reports outbound) :
    ∃ entry ∈ outbound, ∃ verdict, answer = .settled entry.id verdict ∧
      ticket = entry.ticket ∧ outcome = entry.id.outcome verdict := by
  cases answer with
  | stored id => cases told
  | settled id verdict =>
    obtain ⟨entry, listed, same⟩ := List.mem_map.mp told
    obtain ⟨held, matching⟩ := List.mem_filter.mp listed
    obtain rfl := of_decide_eq_true matching
    obtain ⟨rfl, rfl⟩ := Prod.mk.inj same
    exact ⟨entry, held, verdict, rfl, rfl, rfl⟩

/-- An answer leaves a message in the table or reports of it. -/
theorem settle_cases {outbound : List Outbound} {entry : Outbound} (answer : Answer)
    (held : entry ∈ outbound) :
    (∃ left ∈ answer.settle outbound, left.ticket = entry.ticket) ∨
      entry.ticket ∈ (answer.reports outbound).map Prod.fst := by
  cases answer with
  | stored id =>
    refine .inl ⟨_, List.mem_map_of_mem held, ?_⟩
    split <;> rfl
  | settled id verdict =>
    by_cases same : entry.id = id
    · right
      rw [Answer.reports, List.map_map]
      exact List.mem_map_of_mem (List.mem_filter.mpr ⟨held, decide_eq_true same⟩)
    · exact .inl ⟨entry, List.mem_filter.mpr ⟨held, decide_eq_true same⟩, rfl⟩

theorem told_of_judged {id : MessageId} {verdict : Except String Unit}
    (judged : course.Judged id verdict) : course.Told id.toNat (id.outcome verdict) := by
  cases verdict with
  | ok _ => exact judged
  | error reason => exact ⟨rfl, judged⟩

theorem Reporting.hear (sound : course.Sound) {stream : StreamId} {answer : Answer}
    (said : answer ∈ (course.back stream).inFlight) : (course.hear stream answer).Reporting where
  once := by
    simp only [Course.hear, List.map_append]
    refine List.nodup_append.mpr ⟨sound.once, ?_, ?_⟩
    · cases answer with
      | stored id => exact .nil
      | settled id verdict =>
        rw [Answer.reports, List.map_map]
        exact sound.toOutbox.tickets_nodup.sublist (List.filter_sublist.map _)
    · rintro ticket told _ again rfl
      obtain ⟨⟨_, outcome⟩, now, rfl⟩ := List.mem_map.mp again
      obtain ⟨entry, held, _, _, rfl, _⟩ := mem_reports now
      exact sound.fresh entry held told
  fresh entry left told := by
    obtain ⟨⟨before, held, same⟩, unsettled⟩ := holds_hear.mp ⟨entry, left, rfl⟩
    have ticket : before.ticket = entry.ticket := by
      rw [(sound.place before held).1, same, ((Outbox.hear sound said).place entry left).1]
    simp only [Course.hear, List.map_append, List.mem_append] at told
    rcases told with told | again
    · exact sound.fresh before held (ticket ▸ told)
    · obtain ⟨⟨_, outcome⟩, now, toldTicket⟩ := List.mem_map.mp again
      obtain ⟨settled, listed, verdict, answered, rfl, _⟩ := mem_reports now
      have match_ : settled.id = before.id := by
        rw [← MessageId.toNat_inj, ← (sound.place settled listed).1, ← (sound.place before held).1,
          ticket]
        exact toldTicket
      exact unsettled verdict (by rw [answered, match_, same])
  truthful ticket outcome told := by
    rcases List.mem_append.mp told with told | now
    · exact sound.truthful ticket outcome told
    · obtain ⟨entry, held, verdict, rfl, rfl, rfl⟩ := mem_reports now
      rw [(sound.place entry held).1]
      exact told_of_judged (sound.settled stream entry.id verdict said)
  sent ticket told := by
    simp only [Course.hear, List.map_append, List.mem_append] at told
    rcases told with told | again
    · exact sound.sent ticket told
    · obtain ⟨⟨_, outcome⟩, now, rfl⟩ := List.mem_map.mp again
      obtain ⟨entry, held, _, _, rfl, _⟩ := mem_reports now
      obtain ⟨ticket, bound⟩ := sound.place entry held
      exact ticket ▸ bound
  accounted ticket bound := by
    simp only [Course.hear, List.map_append, List.mem_append]
    rcases sound.accounted ticket bound with told | waits
    · exact .inl (.inl told)
    · obtain ⟨entry, held, rfl⟩ := List.mem_map.mp waits
      rcases settle_cases answer held with ⟨left, among, same⟩ | told
      · exact .inr (List.mem_map.mpr ⟨left, among, same⟩)
      · exact .inl (.inr told)

/-- An item that does not stand in the second part of a list divides the first part. -/
theorem exists_split_of_notMem {α : Type} {first second before after : List α} {item : α}
    (split : first ++ second = before ++ item :: after) (absent : item ∉ second) :
    ∃ rest, first = before ++ item :: rest := by
  rcases List.append_eq_append_iff.mp split with ⟨middle, _, rfl⟩ | ⟨middle, rfl, same⟩
  · exact absurd (List.mem_append_right _ (List.mem_cons_self ..)) absent
  · cases middle with
    | nil =>
      rw [List.nil_append] at same
      exact absurd (same ▸ List.mem_cons_self ..) absent
    | cons head middle =>
      obtain ⟨rfl, _⟩ := List.cons.inj same
      exact ⟨middle, rfl⟩

theorem data_notMem_reply {answer : Answer} {id : MessageId} {body : Bytes} :
    Notice.data id body ∉ answer.reply := by
  cases answer <;> simp [Answer.reply]

theorem settled_of_mem_reply {answer : Answer} {id : MessageId}
    (reply : Notice.release id ∈ answer.reply) : ∃ verdict, answer = .settled id verdict := by
  cases answer with
  | stored _ => cases reply
  | settled other verdict =>
    obtain rfl := Notice.release.inj (List.mem_singleton.mp reply)
    exact ⟨verdict, rfl⟩

theorem Outward.hear (sound : course.Sound) {stream : StreamId} {answer : Answer}
    (said : answer ∈ (course.back stream).inFlight) : (course.hear stream answer).Outward where
  carried other id content inFlight := by
    rcases Lane.mem_put inFlight with inFlight | ⟨_, reply⟩
    · exact sound.carried other id content inFlight
    · cases answer <;> simp [Answer.reply] at reply
  released other id inFlight := by
    rw [holds_hear, not_and_or, not_forall]
    rcases Lane.mem_put inFlight with inFlight | ⟨_, reply⟩
    · obtain ⟨earlier, given⟩ := sound.released other id inFlight
      exact ⟨earlier, .inl given⟩
    · obtain ⟨verdict, rfl⟩ := settled_of_mem_reply reply
      exact ⟨(sound.settled stream id verdict said).lt, .inr ⟨verdict, not_not.mpr rfl⟩⟩
  final other := by
    simp only [Course.hear]
    rcases Lane.put_inFlight course.forth course.senderStream answer.reply other with
      same | ⟨_, _, longer⟩
    · rw [same]
      exact sound.final other
    · rw [longer, List.pairwise_append]
      refine ⟨sound.final other, ?_, ?_⟩
      · cases answer with
        | stored id => exact .nil
        | settled id verdict => exact List.pairwise_singleton _ _
      · rintro _ _ _ reply _ _ _ rfl
        exact data_notMem_reply reply
  finalAcross other further id content order released sent := by
    rcases Lane.mem_put sent with sent | ⟨_, reply⟩
    · rcases Lane.mem_put released with released | ⟨there, _⟩
      · exact sound.finalAcross other further id content order released sent
      · -- A release is written to the newest stream, after which there is none.
        have empty := sound.written further fun known =>
          Nat.not_le_of_lt order ((sound.newestSender other there).2 further known)
        rw [empty] at sent
        cases sent
    · exact data_notMem_reply reply
  written other unknown := by
    simp only [Course.hear]
    rcases Lane.put_inFlight course.forth course.senderStream answer.reply other with
      same | ⟨there, _, _⟩
    · rw [same]
      exact sound.written other unknown
    · exact absurd (sound.newestSender other there).1 unknown
  newestSender := sound.newestSender
  shut := sound.shut

theorem Continuous.hear (sound : course.Sound) (stream : StreamId) (answer : Answer) :
    (course.hear stream answer).Continuous where
  gone isOpen id arrived unknown := by
    obtain ⟨given, absent⟩ := sound.gone isOpen id arrived unknown
    refine ⟨fun holds => given (holds_hear.mp holds).1, fun other ahead content inFlight => ?_⟩
    rcases Lane.mem_put inFlight with inFlight | ⟨_, reply⟩
    · exact absent other ahead content inFlight
    · exact data_notMem_reply reply
  gapless isOpen other ahead before id content after inFlight missing unarrived earlier := by
    simp only [Course.hear] at inFlight
    rcases Lane.put_inFlight course.forth course.senderStream answer.reply other with
      same | ⟨_, _, longer⟩
    · rw [same] at inFlight
      exact sound.gapless isOpen other ahead before id content after inFlight missing unarrived
        earlier
    · rw [longer] at inFlight
      obtain ⟨after, split⟩ := exists_split_of_notMem inFlight data_notMem_reply
      exact sound.gapless isOpen other ahead before id content after split missing unarrived earlier
  complete isOpen other attached whole ahead id unarrived bound := by
    simp only [Course.hear, Lane.put_whole] at whole
    obtain ⟨content, inFlight⟩ :=
      sound.complete isOpen other attached whole ahead id unarrived bound
    exact ⟨content, Lane.mem_put_of_mem inFlight _ _⟩

theorem Homeward.hear (sound : course.Sound) {stream : StreamId} {answer : Answer}
    {rest : List Answer} (attached : stream ∈ course.senderStreams)
    (front : (course.back stream).inFlight = answer :: rest) :
    (course.hear stream answer).Homeward where
  stored other id inFlight := sound.stored other id
    ((Lane.sublist_update (course.back stream).pop (List.tail_sublist _) other).subset inFlight)
  settled other id verdict inFlight := sound.settled other id verdict
    ((Lane.sublist_update (course.back stream).pop (List.tail_sublist _) other).subset inFlight)
  answered other receiving whole hearing id finished known := by
    by_cases same : other = stream
    · subst same
      obtain ⟨there, forthWhole⟩ := hearing.resolve_left fun newest =>
        Nat.lt_irrefl _ (newest other attached)
      simp only [Course.hear, Lane.put_whole, Function.update_self, Lane.pop] at whole forthWhole ⊢
      rcases sound.answered other receiving whole (.inr ⟨there, forthWhole⟩) id finished known with
        ⟨verdict, said⟩ | released
      · rw [front, List.mem_cons] at said
        rcases said with rfl | said
        · rw [show course.senderStream = some other from there]
          exact .inr (Lane.mem_put_of_whole forthWhole (List.mem_singleton_self _))
        · exact .inl ⟨verdict, by rw [front]; exact said⟩
      · exact .inr (Lane.mem_put_of_mem released _ _)
    · simp only [Course.hear, Hearing, Lane.put_whole, ne_eq, same, not_false_eq_true,
        Function.update_of_ne] at whole hearing ⊢
      rcases sound.answered other receiving whole hearing id finished known with said | released
      · exact .inl said
      · exact .inr (Lane.mem_put_of_mem released _ _)

theorem Sound.hear (sound : course.Sound) {stream : StreamId} {answer : Answer}
    {rest : List Answer} (attached : stream ∈ course.senderStreams)
    (front : (course.back stream).inFlight = answer :: rest) :
    (course.hear stream answer).Sound := by
  have said : answer ∈ (course.back stream).inFlight := by simp [front]
  exact
    { sound with
      toOutbox := .hear sound said
      toReporting := .hear sound said
      toReception := { sound.toReception with }
      toOutward := .hear sound said
      toContinuous := .hear sound stream answer
      toHomeward := .hear sound attached front }

/-- Answers that the sender does not heed were said on a stream that it has given up. -/
theorem Sound.senderIgnore (sound : course.Sound) {stream : StreamId} {rest : List Answer}
    (attached : stream ∈ course.senderStreams) (given : course.senderStream ≠ some stream)
    (fewer : rest.Sublist (course.back stream).inFlight) :
    (course.senderIgnore stream rest).Sound := by
  have fewer := Lane.sublist_update { course.back stream with inFlight := rest } fewer
  refine { sound with toHomeward := ?_ }
  constructor
  · exact fun other id inFlight => sound.stored other id ((fewer other).subset inFlight)
  · exact fun other id verdict inFlight =>
      sound.settled other id verdict ((fewer other).subset inFlight)
  · intro other receiving whole hearing id finished known
    have different : other ≠ stream := by
      rintro rfl
      rcases hearing with newest | ⟨there, _⟩
      · exact Nat.lt_irrefl _ (newest other attached)
      · exact given there
    simp only [Course.senderIgnore, ne_eq, different, not_false_eq_true, Function.update_of_ne]
      at whole ⊢
    exact sound.answered other receiving whole hearing id finished known

end Course

end Courier
