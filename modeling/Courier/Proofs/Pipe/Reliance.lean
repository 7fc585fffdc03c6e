import Courier.Proofs.Pipe.Delivery
import Courier.Proofs.Pipe.Transit
import Courier.Proofs.Pipe.Unbroken

/-!
# What users of pipes rely on

As long as both pipes are open, those who send by them and those who receive need to know little of
streams: what arrives is what was sent, in order and once, and what is told of a message is what its
receiver made of it (`Pair.Reliable`).

This is so in two cases (`Pair.Kept`).  Either the ids of messages suffice, whatever happens to the
streams; or each side has attached one stream at most, the same one, and nothing is lost on it, in
which case ids are used again and any number of messages can be sent.  The second case is read off
the end of a run: where the streams are undisturbed, they have been so all the time.
-/

namespace Courier

set_option autoImplicit false

/-- The pipe has no stream after its newest one was lost. -/
theorem Pipe.attached_lose (pipe : Pipe) {generation : Nat} (cause : Option StreamError)
    (current : ∀ attachment, pipe.attached = some attachment →
      attachment.generation = generation) : (pipe.lose generation cause).1.attached = none := by
  unfold lose
  cases attached : pipe.attached with
  | none => exact attached
  | some attachment => simp [current attachment attached]

namespace Pair

variable {pair after : Pair} {stream : StreamId} {settings : Side → PipeSettings}

/-! ## Undisturbed streams -/

/-- Nothing was ever lost, and there is one stream, which who has attached it still uses. -/
structure Undisturbed (pair : Pair) (stream : StreamId) : Prop where
  whole : ∀ other side, (pair.lane other side).whole = true
  streams : ∀ side, (pair.party side).streams = [] ∨
    (pair.party side).streams = [stream] ∧ (pair.party side).pipe.stream? = some stream

/-- Neither pipe has been closed. -/
def Open (pair : Pair) : Prop := ∀ side, (pair.party side).pipe.closed = false

theorem Continues.isOpen (continues : pair.Continues after) (isOpen : after.Open) : pair.Open :=
  fun side => (continues.connected side).closed.symm.trans (isOpen side)

theorem Continues.undisturbed (continues : pair.Continues after)
    (undisturbed : after.Undisturbed stream) : pair.Undisturbed stream where
  whole other side := (continues.whole other side).symm.trans (undisturbed.whole other side)
  streams side := by
    have connected := continues.connected side
    rcases undisturbed.streams side with none | ⟨one, inUse⟩
    · exact .inl (connected.streams.symm.trans none)
    · refine .inr ⟨connected.streams.symm.trans one, ?_⟩
      rcases connected.attached with same | lost
      · exact (congrArg (Option.map Attachment.stream) same).symm.trans inUse
      · simp [Pipe.stream?, lost] at inUse

theorem whole_attach (pair : Pair) (side : Side) (stream other : StreamId) (subject : Side) :
    ((pair.attach side stream).lane other subject).whole = (pair.lane other subject).whole := by
  unfold Pair.attach
  simp only
  split
  · rfl
  · exact whole_performAll _ side _ other subject

/-- What is attached last is the one stream, and none was attached before. -/
theorem attach_first (side : Side) {other : StreamId}
    (undisturbed : (pair.attach side other).Undisturbed stream) :
    pair.attach side other = pair ∨ (pair.party side).streams = [] ∧ other = stream := by
  refine (pair.attach_cases side other).imp_right fun ⟨_, attached⟩ => ?_
  have streams : ((pair.attach side other).party side).streams =
      (pair.party side).streams ++ [other] := congrArg Party.streams attached.own
  rcases undisturbed.streams side with none | ⟨one, _⟩
  · simp [streams] at none
  · have alone : (pair.party side).streams ++ [other] = [] ++ [stream] := streams ▸ one
    obtain ⟨first, last⟩ := List.append_inj' alone rfl
    exact ⟨first, (List.cons.inj last).1⟩

theorem attach_undisturbed (side : Side) {other : StreamId}
    (undisturbed : (pair.attach side other).Undisturbed stream) : pair.Undisturbed stream where
  whole another subject :=
    (pair.whole_attach side other another subject).symm.trans (undisturbed.whole another subject)
  streams subject := by
    rcases pair.attach_cases side other with same | ⟨_, attached⟩
    · exact same ▸ undisturbed.streams subject
    rcases attach_first side undisturbed with same | ⟨first, _⟩
    · exact same ▸ undisturbed.streams subject
    rcases side.eq_or_eq_other subject with rfl | rfl
    · exact .inl first
    · exact attached.peer ▸ undisturbed.streams side.other

/-- A stream that is attached in vain disturbs. -/
theorem attachInVain_eq (side : Side) {other : StreamId}
    (undisturbed : (pair.attachInVain side other).Undisturbed stream) :
    pair.attachInVain side other = pair := by
  refine (pair.attachInVain_cases side other).resolve_right fun attached => ?_
  rcases undisturbed.streams side with none | ⟨_, inUse⟩
  · rw [attached.own] at none
    simp [Party.attaching, Party.detached] at none
  · rw [attached.own] at inUse
    cases inUse

theorem lose_of_detached (pair : Pair) (side : Side) (generation : Nat)
    (cause : Option StreamError) (detached : (pair.party side).pipe.attached = none) :
    pair.lose side generation cause = pair := by
  have kept : (pair.party side).pipe.lose generation cause = ((pair.party side).pipe, []) := by
    simp [Pipe.lose, detached]
  rw [Pair.lose, kept]
  exact pair.setParty_eq_self side

/-- So does the loss of a stream. -/
theorem lose_eq (regular : ∀ side, (pair.party side).Regular) (side : Side) {generation : Nat}
    {cause : Option StreamError}
    (undisturbed : (pair.lose side generation cause).Undisturbed stream) :
    pair.lose side generation cause = pair := by
  cases attached : (pair.party side).pipe.attached with
  | none => exact pair.lose_of_detached side generation cause attached
  | some attachment =>
    rw [lose_eq_perform] at undisturbed ⊢
    refine (pair.perform_lose_cases side generation cause).resolve_right fun lost => ?_
    rcases undisturbed.streams side with none | ⟨_, inUse⟩
    · rw [lost.own] at none
      have last := ((regular side).attached attachment attached).2
      rw [show (pair.party side).streams = [] from none] at last
      cases last
    · rw [lost.own] at inUse
      cases inUse

theorem close_eq (side : Side) (isOpen : (pair.close side).Open) : pair.close side = pair := by
  refine (pair.close_cases side).resolve_right fun closing => ?_
  have closed := isOpen side
  rw [closing.own] at closed
  cases closed

/-- Corrupt bytes cost a party its stream. -/
theorem arrive_faultless (side : Side) {bytes : Bytes} {rest : List Packet}
    (regular : (pair.party side).Regular) (isOpen : (pair.party side).pipe.closed = false)
    (inUse : ((pair.arrive side (pair.party side).pipe.generation stream bytes rest).party
      side).pipe.attached ≠ none) :
    ((pair.party side).pipe.reader.push bytes).drain.2.1 = none := by
  have current : ∀ attachment, (pair.party side).pipe.attached = some attachment →
      attachment.generation = (pair.party side).pipe.generation :=
    fun attachment attached => (regular.attached attachment attached).1
  by_contra corrupt
  obtain ⟨fault, found⟩ := Option.ne_none_iff_exists'.mp corrupt
  refine inUse ?_
  rw [arrive_heeded pair side stream bytes rest isOpen current, found]
  refine (congrArg (fun party : Party => party.pipe.attached) (party_setParty_self _)).trans
    (Pipe.attached_lose _ _ fun attachment attached => ?_)
  rw [party_performAll_write, party_setParty_self] at attached
  exact current attachment attached

/-! ## Steps back and forth -/

/-- Where the streams are undisturbed after a step, they were so before it. -/
theorem Step.undisturbed (step : Step pair after) (isOpen : after.Open)
    (undisturbed : after.Undisturbed stream) : pair.Open ∧ pair.Undisturbed stream := by
  have back : pair.Continues after → pair.Open ∧ pair.Undisturbed stream := fun continues =>
    ⟨continues.isOpen isOpen, continues.undisturbed undisturbed⟩
  cases step with
  | send side body => exact back (pair.continues_send side body)
  | attach side other =>
    refine ⟨fun subject => ?_, attach_undisturbed side undisturbed⟩
    exact (pair.moves_attach side other subject).closed.symm.trans (isOpen subject)
  | attachInVain side other =>
    have same := attachInVain_eq side undisturbed
    exact same ▸ ⟨isOpen, undisturbed⟩
  | arrive side generation other bytes packets rest =>
    exact back (pair.continues_arrive side generation other bytes rest)
  | bind side => exact back (pair.continues_bind side)
  | hand side => exact back (pair.continues_hand side)
  | conclude side receipt => exact back (pair.continues_conclude side receipt)
  | lose side generation cause => exact back (pair.continues_lose side generation cause)
  | close side =>
    have same := close_eq side isOpen
    exact same ▸ ⟨isOpen, undisturbed⟩
  | cut other side count =>
    have whole := undisturbed.whole other side
    simp [Pair.cut, setLane, Lane.cut] at whole

/-- And then nothing is lost in the step. -/
theorem Steady.step (steady : pair.Steady stream) (step : Step pair after) (isOpen : after.Open)
    (undisturbed : after.Undisturbed stream) : after.Steady stream := by
  have before := step.undisturbed isOpen undisturbed
  cases step with
  | send side body => exact steady.send side body
  | attach side other =>
    rcases attach_first side undisturbed with same | ⟨first, rfl⟩
    · exact same.symm ▸ steady
    · exact steady.attach side first
  | attachInVain side other => exact (attachInVain_eq side undisturbed).symm ▸ steady
  | arrive side generation other bytes packets rest attached inFlight read =>
    have listed := Party.mem_of_stream? attached
    obtain ⟨one, inUse⟩ := (before.2.streams side).resolve_left (List.ne_nil_of_mem listed)
    obtain rfl : other = stream := List.mem_singleton.mp (one ▸ listed)
    obtain rfl : generation = (pair.party side).pipe.generation := by
      rw [(steady.regular side).generation, one]
      cases generation with
      | zero => cases attached
      | succ number =>
        have bound := (List.getElem?_eq_some_iff.mp attached).1
        rw [one, List.length_singleton] at bound
        rw [List.length_singleton, Nat.lt_one_iff.mp bound]
    have opened := before.1 side
    -- A fault would have cost the stream, which is still in use.
    have still : ((pair.arrive side (pair.party side).pipe.generation other bytes rest).party
        side).pipe.attached ≠ none := by
      have continues :=
        pair.continues_arrive side (pair.party side).pipe.generation other bytes rest
      have streams := (continues.connected side).streams.trans one
      obtain ⟨_, found⟩ := (undisturbed.streams side).resolve_left (by simp [streams])
      intro none
      simp [Pipe.stream?, none] at found
    exact steady.arrive inUse inFlight (read rfl opened)
      (arrive_faultless side (steady.regular side) opened still)
  | bind side => exact steady.bind side
  | hand side _ idle => exact steady.hand side idle
  | conclude side receipt => exact steady.conclude side receipt
  | lose side generation cause => exact (lose_eq steady.regular side undisturbed).symm ▸ steady
  | close side => exact (close_eq side isOpen).symm ▸ steady
  | cut other side count =>
    have whole := undisturbed.whole other side
    simp [Pair.cut, setLane, Lane.cut] at whole

/-- Where the streams are undisturbed, they have been so all the time. -/
theorem Reachable.steady (reachable : Reachable settings pair) (isOpen : pair.Open)
    (undisturbed : pair.Undisturbed stream) : pair.Steady stream := by
  induction reachable with
  | refl => exact .new settings stream
  | tail _ step ih =>
    have before := step.undisturbed isOpen undisturbed
    exact (ih before.1 before.2).step step isOpen undisturbed

/-! ## Pipes that are relied on -/

/-- The ids of messages suffice, or nothing was ever lost. -/
def Kept (pair : Pair) : Prop := pair.WithinIds ∨ ∃ stream, pair.Undisturbed stream

theorem Step.kept (step : Step pair after) (isOpen : after.Open) (kept : after.Kept) : pair.Kept :=
  kept.imp (fun within => within.of_step step)
    fun ⟨stream, undisturbed⟩ => ⟨stream, (step.undisturbed isOpen undisturbed).2⟩

/-- What those who send by two open pipes and those who receive rely on. -/
structure Reliable (pair : Pair) : Prop where
  isOpen : pair.Open
  regular : ∀ side, (pair.party side).Regular
  inOrder : ∀ side,
    (pair.party side.other).handed ++ (pair.party side.other).pipe.waiting.map Prod.snd <+:
      (pair.party side).accepted
  idle : ∀ side, (pair.party side).busy = none →
    (pair.party side).receipts.length = (pair.party side).handed.length
  engaged : ∀ side id, (pair.party side).busy = some id →
    (pair.party side).receipts.length + 1 = (pair.party side).handed.length
  received : ∀ side id, (pair.party side).busy = some id →
    (pair.party side).pipe.exchange.disposition? id = some .received
  truthful : ∀ side ticket outcome, (ticket, outcome) ∈ (pair.party side).reports →
    ∃ receipt id, (pair.party side.other).receipts[ticket]? = some receipt ∧
      outcome = MessageId.outcome id receipt.verdict

theorem Steady.reliable (steady : pair.Steady stream) : pair.Reliable where
  isOpen := steady.isOpen
  regular := steady.regular
  inOrder := steady.inOrder
  idle := steady.idle
  engaged _ _ busy := steady.engaged _ busy
  received _ _ busy := steady.disposition?_busy busy
  truthful side _ _ told := steady.receipt_of_report side told

theorem Valid.reliable (valid : pair.Valid) (isOpen : pair.Open) : pair.Reliable where
  isOpen := isOpen
  regular side := (valid.orderly side).toRegular
  inOrder side := by
    have inOrder := (valid.sound side).inOrder
    exact inOrder ▸ List.take_prefix _ _
  idle side idle := by
    have sound := valid.sound side.other
    simpa [course] using sound.idle (by simpa [course] using idle)
  engaged side id busy := by
    have sound := valid.sound side.other
    simpa [course] using (sound.engaged id (by simpa [course] using busy)).2
  received _ _ busy := valid.disposition?_busy (isOpen _) busy
  truthful side ticket outcome told := by
    have truthful := (valid.sound side).truthful ticket outcome told
    rcases outcome with error | ⟨⟩
    · cases error with
      | rejected id reason =>
        obtain ⟨rfl, receipt, found, judged⟩ := truthful
        exact ⟨receipt, id, found, by rw [judged]; rfl⟩
      | closed =>
        simp [Course.Told, Pair.course, isOpen side] at truthful
      | _ => exact truthful.elim
    · obtain ⟨receipt, found, judged⟩ := truthful
      exact ⟨receipt, .zero, found, by rw [judged]; rfl⟩

/-- Whatever has happened to the streams, two open pipes can be relied on. -/
theorem Reachable.reliable (reachable : Reachable settings pair) (isOpen : pair.Open)
    (kept : pair.Kept) : pair.Reliable := by
  rcases kept with within | ⟨stream, undisturbed⟩
  · exact (reachable.valid within).reliable isOpen
  · exact (reachable.steady isOpen undisturbed).reliable

/-- What concluding a message makes of pipes that are relied on. -/
theorem Reliable.conclude_becomes (reliable : pair.Reliable) {side : Side} {id : MessageId}
    (busy : (pair.party side).busy = some id) (receipt : Receipt) :
    pair.Becomes side (pair.conclude side receipt) ((pair.party side).concluding id receipt)
      (pair.course side) ((pair.course side.other).conclude id receipt) :=
  conclude_open pair side receipt busy (reliable.isOpen side) (reliable.received side id busy)

/-! ## Everybody is told -/

/-- There is a report for each message that was accepted. -/
def ToldAll (pair : Pair) : Prop := ∀ side, ∀ ticket : Nat,
  ticket < (pair.party side).accepted.length → ticket ∈ (pair.party side).reports.map Prod.fst

theorem Steady.toldAll (steady : pair.Steady stream) (rest : pair.AtRest stream) :
    pair.ToldAll := by
  intro side ticket accepted
  obtain ⟨outcome, told⟩ := steady.told_all rest side accepted
  exact List.mem_map_of_mem told

/-- **Whoever waits is told in the end**: once nothing is in flight and nothing is worked on, and
the stream in use has lost nothing. -/
theorem Reachable.toldAll (reachable : Reachable settings pair) (isOpen : pair.Open)
    (kept : pair.Kept) (rest : pair.AtRest stream)
    (whole : ∀ side, (pair.lane stream side).whole = true) : pair.ToldAll := by
  rcases kept with within | ⟨other, undisturbed⟩
  · intro side ticket accepted
    have valid := reachable.valid within
    refine ((valid.sound side).accounted ticket accepted).resolve_right fun listed => ?_
    obtain ⟨entry, waits, _⟩ := List.mem_map.mp listed
    rcases underway_of_outbound valid ⟨isOpen, rest.inUse, whole⟩ side waits with
      ⟨_, inFlight⟩ | ⟨_, busy | ⟨_, waiting⟩⟩ | ⟨_, inFlight, _⟩
    · simp [rest.inFlight side] at inFlight
    · simp [rest.busy side.other] at busy
    · simp [rest.waiting side.other] at waiting
    · simp [rest.inFlight side.other] at inFlight
  · have steady := reachable.steady isOpen undisturbed
    obtain ⟨attachment, attached, same⟩ := Option.map_eq_some_iff.mp (rest.inUse .a)
    have last := ((steady.regular .a).attached attachment attached).2
    obtain rfl : other = stream := by
      rcases undisturbed.streams .a with none | ⟨one, _⟩
      · simp [none] at last
      · simpa [one, same] using last
    exact steady.toldAll rest

end Pair

end Courier
