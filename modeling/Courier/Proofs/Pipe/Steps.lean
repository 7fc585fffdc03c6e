import Courier.Proofs.Pipe.Operations
import Courier.Proofs.Pipe.Receiving
import Courier.Proofs.Pipe.Sending

/-!
# The steps of a pair

The courses of a pair stay sound from step to step, together with what connects
the counters of a pipe with what has happened at it.
-/

namespace Courier

set_option autoImplicit false

namespace Course

variable {course : Course}

/-- The sender hears several answers. -/
theorem Sound.hearAll (sound : course.Sound) {stream : StreamId}
    (attached : stream ∈ course.senderStreams) (answers rest : List Answer)
    (front : (course.back stream).inFlight = answers ++ rest) :
    (answers.foldl (Course.hear stream) course).Sound := by
  induction answers generalizing course with
  | nil => exact sound
  | cons answer answers ih =>
    refine ih (sound.hear attached front) attached ?_
    simp [Course.hear, Lane.pop, front]

/-- The receiver sees several notices. -/
theorem Sound.seeAll (sound : course.Sound) (isOpen : course.receiverOpen = true)
    {stream : StreamId} (attached : stream ∈ course.receiverStreams)
    (ahead : course.Ahead stream) (notices rest : List Notice)
    (front : (course.forth stream).inFlight = notices ++ rest) :
    (notices.foldl (Course.see stream) course).Sound := by
  induction notices generalizing course with
  | nil => exact sound
  | cons notice notices ih =>
    refine ih (sound.see isOpen attached ahead front) isOpen attached ahead ?_
    simp [Course.see, Lane.pop, front]

end Course

/-- The counters fit, and as long as the ids suffice each message has its place for an id. -/
structure Party.Orderly (party : Party) : Prop extends party.Regular where
  nextId : party.pipe.exchange.nextId = .ofNat party.accepted.length

namespace Pair

variable {pair : Pair} {side : Side}

/-! ## The invariant of a pair -/

/-- What holds of a pair at every moment. -/
structure Valid (pair : Pair) : Prop where
  sound : ∀ side, (pair.course side).Sound
  orderly : ∀ side, (pair.party side).Orderly

/-- An operation keeps it if the courses that it leads to are sound and the party that acts stays
orderly. -/
theorem Valid.becomes (valid : pair.Valid) {after : Pair} {party : Party}
    {sending receiving : Course}
    (becomes : pair.Becomes side after party sending receiving) (sound : sending.Sound)
    (received : receiving.Sound) (orderly : party.Orderly) : after.Valid where
  sound subject := by
    rcases side.eq_or_eq_other subject with rfl | rfl
    · exact becomes.sending ▸ sound
    · exact becomes.receiving ▸ received
  orderly subject := by
    rcases side.eq_or_eq_other subject with rfl | rfl
    · exact becomes.own ▸ orderly
    · exact becomes.peer ▸ valid.orderly side.other

/-! ## Sending and attaching -/

theorem newId_toNat (valid : pair.Valid) (side : Side)
    (within : (pair.party side).accepted.length < 0x1000000) :
    (pair.party side).pipe.exchange.newId.toNat = (pair.party side).accepted.length :=
  (pair.party side).pipe.exchange.newId_toNat (valid.orderly side).nextId
    (fun entry held => ((valid.sound side).place entry held).2) within

theorem Valid.send (valid : pair.Valid) (side : Side) (body : Bytes)
    (within : (pair.send side body).WithinIds) : (pair.send side body).Valid := by
  have orderly := valid.orderly side
  rcases send_cases pair side body orderly.sent with
    ⟨_, _, _, same⟩ | ⟨_, _, _, _, _, entered⟩
  · rw [same]
    exact valid
  · have bound := within side
    rw [entered.own, Party.entering, List.length_append, List.length_singleton] at bound
    have number := newId_toNat valid side (by omega)
    refine valid.becomes entered ((valid.sound side).enter body number) (valid.sound side.other)
      { orderly.entering body with nextId := ?_ }
    simp [Party.entering, MessageId.next, number]

theorem Valid.attach (valid : pair.Valid) (side : Side) {stream : StreamId}
    (later : ∀ earlier ∈ (pair.party side).streams, earlier < stream) :
    (pair.attach side stream).Valid := by
  rcases attach_cases pair side stream with same | ⟨isOpen, attached⟩
  · rw [same]
    exact valid
  · refine valid.becomes attached ?_ ?_
      { (valid.orderly side).attaching later with nextId := (valid.orderly side).nextId }
    · exact (valid.sound side).senderAttach (by simp [course, isOpen]) later
    · exact (valid.sound side.other).receiverAttach (by simp [course, isOpen])
        (by simpa [course] using later)
        (by simpa [course] using (pair.party side).pipe.exchange.mem_resync_answers)

theorem Valid.attachInVain (valid : pair.Valid) (side : Side) {stream : StreamId}
    (later : ∀ earlier ∈ (pair.party side).streams, earlier < stream) :
    (pair.attachInVain side stream).Valid := by
  rcases attachInVain_cases pair side stream with same | attached
  · rw [same]
    exact valid
  · exact valid.becomes attached ((valid.sound side).senderAttachInVain stream)
      ((valid.sound side.other).receiverAttachInVain stream)
      { ((valid.orderly side).attaching later).detached with nextId := (valid.orderly side).nextId }

/-! ## The receiver -/

theorem Valid.bind (valid : pair.Valid) (side : Side) : (pair.bind side).Valid := by
  rcases bind_cases pair side with same | bound
  · rw [same]
    exact valid
  · exact valid.becomes bound (valid.sound side) (valid.sound side.other)
      { valid.orderly side with }

theorem Valid.hand (valid : pair.Valid) (side : Side) (idle : (pair.party side).busy = none) :
    (pair.hand side).Valid := by
  rcases hand_cases pair side with ⟨_, same⟩ | ⟨id, body, rest, waiting, handed⟩
  · rw [same]
    exact valid
  · refine valid.becomes handed (valid.sound side) ?_ { valid.orderly side with }
    exact (valid.sound side.other).hand (by simpa [course] using idle)
      (by simpa [course] using waiting)

/-- The message that the receiver is at counts as received, as long as the pipe is open. -/
theorem Valid.disposition?_busy (valid : pair.Valid) {side : Side} {id : MessageId}
    (isOpen : (pair.party side).pipe.closed = false) (busy : (pair.party side).busy = some id) :
    (pair.party side).pipe.exchange.disposition? id = some .received := by
  have sound := valid.sound side.other
  obtain ⟨number, next⟩ := sound.engaged id (by simpa [course] using busy)
  have arrived : id.toNat < (pair.course side.other).received := by
    unfold Course.received
    omega
  have held := sound.held (by simpa [course] using isOpen) id (Nat.le_of_eq number.symm) arrived
  rw [Exchange.disposition?_eq_lookup?]
  cases found : lookup? (pair.party side).pipe.exchange.inbound id with
  | none =>
    refine absurd ⟨_, held⟩ (Course.lookup?_eq_none.mp ?_)
    simpa [course] using found
  | some disposition =>
    have standing := (sound.known id disposition
      (by simpa [course] using Course.mem_of_lookup? found)).2
    rw [standing, Course.standing_of_le (Nat.le_of_eq number.symm)]

theorem Valid.conclude (valid : pair.Valid) (side : Side) (receipt : Receipt) :
    (pair.conclude side receipt).Valid := by
  cases busy : (pair.party side).busy with
  | none =>
    unfold Pair.conclude
    simpa only [busy] using valid
  | some id =>
    have busyCourse : (pair.course side.other).busy = some id := by simpa [course] using busy
    obtain ⟨_, _, _, nextId⟩ := (pair.party side).pipe.conclude_kept id receipt.verdict
    have orderly : ((pair.party side).concluding id receipt).Orderly :=
      { (valid.orderly side).concluding id receipt with
        nextId := nextId.trans (valid.orderly side).nextId }
    cases closed : (pair.party side).pipe.closed with
    | true =>
      refine valid.becomes (conclude_closed pair side receipt busy closed) (valid.sound side) ?_
        orderly
      exact (valid.sound side.other).concludeClosed (by simp [course, closed]) busyCourse receipt
    | false =>
      refine valid.becomes (conclude_open pair side receipt busy closed
        (valid.disposition?_busy closed busy)) (valid.sound side) ?_ orderly
      exact (valid.sound side.other).conclude (by simp [course, closed]) busyCourse receipt

/-! ## The loss of a stream, and the end -/

theorem Valid.perform_lose (valid : pair.Valid) (side : Side) (generation : Nat)
    (cause : Option StreamError) : (perform side pair (.lose generation cause)).Valid := by
  rcases perform_lose_cases pair side generation cause with same | lost
  · rw [same]
    exact valid
  · exact valid.becomes lost (valid.sound side).senderLose (valid.sound side.other).receiverLose
      { (valid.orderly side).detached with nextId := (valid.orderly side).nextId }

theorem Valid.lose (valid : pair.Valid) (side : Side) (generation : Nat)
    (cause : Option StreamError) : (pair.lose side generation cause).Valid := by
  rw [lose_eq_perform]
  exact valid.perform_lose side generation cause

theorem Valid.close (valid : pair.Valid) (side : Side) : (pair.close side).Valid := by
  rcases close_cases pair side with same | closed
  · rw [same]
    exact valid
  · exact valid.becomes closed (valid.sound side).senderClose (valid.sound side.other).receiverClose
      { (valid.orderly side).closing with nextId := (valid.orderly side).nextId }

theorem take_flatMap_isPrefix {α β : Type} (meaning : α → List β) (items : List α) (count : Nat) :
    (items.take count).flatMap meaning <+: items.flatMap meaning := by
  conv_rhs => rw [← List.take_append_drop count items, List.flatMap_append]
  exact List.prefix_append _ _

theorem Valid.cut (valid : pair.Valid) (stream : StreamId) (side : Side) (count : Nat) :
    (pair.cut stream side count).Valid := by
  refine valid.becomes (cut_becomes pair stream side count) ?_ ?_ (valid.orderly side)
  · exact (valid.sound side).cutForth stream (take_flatMap_isPrefix _ _ count)
  · refine (valid.sound side.other).cutBack stream ?_
    simpa [course, Lane.say] using take_flatMap_isPrefix _ _ count

/-! ## Arrivals -/

theorem Valid.arrive_ignored (valid : pair.Valid) {side : Side} {generation : Nat}
    {stream : StreamId} {bytes : Bytes} {packets rest : List Packet}
    (attached : (pair.party side).stream? generation = some stream)
    (inFlight : (pair.lane stream side.other).inFlight = packets ++ rest)
    (ignored : generation ≠ (pair.party side).pipe.generation ∨
      (pair.party side).pipe.closed = true) :
    (pair.arrive side generation stream bytes rest).Valid := by
  refine valid.becomes (arrive_ignored_becomes pair side stream bytes rest ignored) ?_ ?_
    (valid.orderly side)
  · refine (valid.sound side).senderIgnore (Party.mem_of_stream? attached) ?_ ?_
    · intro inUse
      rcases ignored with old | closed
      · obtain ⟨newer, listed, later⟩ := (valid.orderly side).stale attached old
        exact Nat.not_le_of_lt later (((valid.sound side).newestSender stream inUse).2 newer listed)
      · rw [(valid.sound side).shut (by simp [course, closed])] at inUse
        cases inUse
    · simp only [course, Lane.say, inFlight, List.flatMap_append]
      exact List.sublist_append_right _ _
  · refine (valid.sound side.other).receiverIgnore ?_ ?_
    · intro isOpen ahead
      rcases ignored with old | closed
      · obtain ⟨newer, listed, later⟩ := (valid.orderly side).stale attached old
        exact Nat.not_le_of_lt later (ahead newer (by simpa [course] using listed))
      · simp [course, closed] at isOpen
    · simp only [course, Lane.say, inFlight, List.flatMap_append]
      exact List.sublist_append_right _ _

theorem Valid.handled (valid : pair.Valid) {side : Side} {stream : StreamId} {bytes : Bytes}
    {packets rest : List Packet} (isOpen : (pair.party side).pipe.closed = false)
    (attached : (pair.party side).stream? (pair.party side).pipe.generation = some stream)
    (inFlight : (pair.lane stream side.other).inFlight = packets ++ rest)
    (read : (pair.party side).reading bytes = packets) :
    (((pair.setLane stream side.other
        { pair.lane stream side.other with inFlight := rest }).setParty side
          ((pair.party side).handling bytes)).performAll side
      ((pair.party side).pipe.write
        ((pair.party side).pipe.exchange.handleAll packets).1.answers)).Valid := by
  have newest := (valid.orderly side).newest attached
  have member := Party.mem_of_stream? attached
  have handled := (pair.party side).pipe.exchange.handleAll_handled
    ((pair.party side).reading bytes)
  refine valid.becomes (handled_becomes pair side inFlight read) ?_ ?_
    { (valid.orderly side).handling bytes with
      nextId := handled.nextId.trans (valid.orderly side).nextId }
  · refine (valid.sound side).hearAll member _ (rest.flatMap Packet.answers) ?_
    simp [course, Lane.say, inFlight]
  · refine (valid.sound side.other).seeAll (by simp [course, isOpen])
      (by simpa [course] using member) (by simpa [course, Course.Ahead] using newest)
      _ (rest.flatMap Packet.notices) ?_
    simp [course, Lane.say, inFlight]

theorem Valid.arrive (valid : pair.Valid) {side : Side} {generation : Nat} {stream : StreamId}
    {bytes : Bytes} {packets rest : List Packet}
    (attached : (pair.party side).stream? generation = some stream)
    (inFlight : (pair.lane stream side.other).inFlight = packets ++ rest)
    (read : generation = (pair.party side).pipe.generation → (pair.party side).pipe.closed = false →
      (pair.party side).reading bytes = packets) :
    (pair.arrive side generation stream bytes rest).Valid := by
  by_cases ignored : generation ≠ (pair.party side).pipe.generation ∨
      (pair.party side).pipe.closed = true
  · exact valid.arrive_ignored attached inFlight ignored
  · obtain ⟨current, isOpen⟩ := not_or.mp ignored
    obtain rfl := not_not.mp current
    have isOpen := eq_false_of_ne_true isOpen
    have reading := read rfl isOpen
    rw [arrive_heeded pair side stream bytes rest isOpen fun attachment attached =>
      ((valid.orderly side).attached attachment attached).1, reading]
    have handled := valid.handled isOpen attached inFlight reading
    cases ((pair.party side).pipe.reader.push bytes).drain.2.1 with
    | none => exact handled
    | some fault => exact handled.perform_lose side _ _

/-! ## Runs -/

theorem Valid.new (settings : Side → PipeSettings) : (Pair.new settings).Valid where
  sound side :=
    { place := fun _ held => by cases held
      ascending := .nil
      body := fun _ held => by cases held
      freed := fun _ held => by cases held
      retired := fun _ _ bound => absurd bound (Nat.not_lt_zero _)
      once := .nil
      fresh := fun _ held => by cases held
      truthful := fun _ _ told => by cases told
      sent := fun _ told => by cases told
      accounted := fun _ bound => absurd bound (Nat.not_lt_zero _)
      inOrder := rfl
      numbered := rfl
      idle := fun _ => rfl
      engaged := fun _ busy => by cases busy
      known := fun _ _ listed => by cases listed
      held := fun _ _ _ arrived => absurd arrived (Nat.not_lt_zero _)
      emptied := fun closed => by cases closed
      newestReceiver := fun _ attached => by cases attached
      carried := fun _ _ _ inFlight => by cases inFlight
      released := fun _ _ inFlight => by cases inFlight
      final := fun _ => .nil
      finalAcross := fun _ _ _ _ _ inFlight => by cases inFlight
      written := fun _ _ => rfl
      newestSender := fun _ attached => by cases attached
      shut := fun closed => by cases closed
      gone := fun _ _ arrived => absurd arrived (Nat.not_lt_zero _)
      gapless := fun _ _ _ before _ _ _ inFlight => by
        cases before <;> cases inFlight
      complete := fun _ _ attached => by cases attached
      stored := fun _ _ inFlight => by cases inFlight
      settled := fun _ _ _ inFlight => by cases inFlight
      answered := fun _ attached => by cases attached }
  orderly side :=
    { generation := rfl
      attached := fun _ attached => by cases attached
      sent := rfl
      nextId := rfl
      ascending := .nil }

/-- Every step keeps what holds of a pair. -/
theorem Valid.step (valid : pair.Valid) {after : Pair} (step : Step pair after)
    (within : after.WithinIds) : after.Valid := by
  cases step with
  | send side body => exact valid.send side body within
  | attach side stream later => exact valid.attach side later
  | attachInVain side stream later => exact valid.attachInVain side later
  | arrive side generation stream bytes packets rest attached inFlight read =>
    exact valid.arrive attached inFlight read
  | bind side => exact valid.bind side
  | hand side _ idle => exact valid.hand side idle
  | conclude side receipt => exact valid.conclude side receipt
  | lose side generation cause => exact valid.lose side generation cause
  | close side => exact valid.close side
  | cut stream side count => exact valid.cut stream side count

/-- It holds of every pair that can be reached, as long as the ids suffice. -/
theorem Reachable.valid {settings : Side → PipeSettings} (reachable : Reachable settings pair)
    (within : pair.WithinIds) : pair.Valid := by
  induction reachable with
  | refl => exact .new settings
  | tail _ step ih => exact (ih (within.of_step step)).step step within

end Pair

end Courier
