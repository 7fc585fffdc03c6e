import Courier.Proofs.Rpc.Bookkeeping

/-!
# The accounts of a dialogue balance

Whatever happens, each pending call of one side is held by just one thing: by the message
of the call, or by something for which the other side owes a return.  A call passes from
one holder to the next when a message is accepted, when a job ends and when a task goes
on, and it leaves the accounts of both sides at once when its return is accepted.
-/

namespace Courier

set_option autoImplicit false

/-- The accounts of one side have changed evenly, if they have changed at all. -/
structure Speaker.Even {τ : Type} (before after : Speaker τ) (ended : List Receipt) : Prop where
  pending : ∀ id, after.pending.count id + (before.calling ended).count id =
    before.pending.count id + (after.calling ended).count id
  owing : ∀ id, (after.owing ended).count id = (before.owing ended).count id

theorem Speaker.Even.refl {τ : Type} (speaker : Speaker τ) (ended : List Receipt) :
    speaker.Even speaker ended := ⟨fun _ => rfl, fun _ => rfl⟩

namespace Dialogue

variable {τ : Type} {dialogue after : Dialogue τ} {side : Side}

/-- Each pending call of a side is held once. -/
def Balanced (dialogue : Dialogue τ) (side : Side) : Prop :=
  ∀ id, (dialogue.speaker side).pending.count id =
    ((dialogue.speaker side).calling (dialogue.ended side.other)).count id +
      ((dialogue.speaker side.other).owing (dialogue.ended side)).count id

structure Sound (dialogue : Dialogue τ) : Prop extends dialogue.Orderly where
  balanced : ∀ side, dialogue.Balanced side

/-- What one side does for itself leaves the accounts balanced. -/
theorem Sound.even (sound : dialogue.Sound) (side : Side) (orderly : after.Orderly)
    (peer : after.speaker side.other = dialogue.speaker side.other)
    (ended : ∀ side, after.ended side = dialogue.ended side)
    (even : (dialogue.speaker side).Even (after.speaker side) (dialogue.ended side.other)) :
    after.Sound where
  toOrderly := orderly
  balanced subject id := by
    have balanced := sound.balanced subject id
    rcases side.eq_or_eq_other subject with rfl | rfl
    · have pending := even.pending id
      rw [peer, ended, ended]
      omega
    · have owing := even.owing id
      rw [Side.other_other] at balanced ⊢
      rw [peer, ended, ended, owing]
      exact balanced

theorem ended_setSpeaker {speaker : Speaker τ}
    (verdict : speaker.verdict = (dialogue.speaker side).verdict) (subject : Side) :
    (dialogue.setSpeaker side speaker).ended subject = dialogue.ended subject := by
  rcases side.eq_or_eq_other subject with rfl | rfl
  · rw [ended, speaker_setSpeaker_self, verdict]
    rfl
  · rw [ended, speaker_setSpeaker_other]
    rfl

/-- Something happens on the streams alone. -/
theorem Sound.setPair (sound : dialogue.Sound) {pair : Pair} (reliable : pair.Reliable)
    (moves : ∀ side, (dialogue.pair.party side).Moves (pair.party side)) :
    (dialogue.setPair pair).Sound :=
  sound.even .a (sound.toOrderly.setPair reliable moves) rfl (ended_setPair moves) (.refl _ _)

/-- The receiver ends with its message as it was going to. -/
theorem Sound.conclude (sound : dialogue.Sound) (side : Side)
    (reliable : (dialogue.conclude side).pair.Reliable) : (dialogue.conclude side).Sound := by
  cases verdict : (dialogue.speaker side).verdict with
  | none =>
    unfold Dialogue.conclude
    simpa only [verdict] using sound
  | some receipt =>
    obtain ⟨id, busy⟩ : ∃ id, (dialogue.pair.party side).busy = some id := by
      refine Option.isSome_iff_exists.mp ?_
      rw [← sound.judged side, verdict]
      rfl
    have becomes := sound.reliable.conclude_becomes busy receipt
    have own := becomes.own
    have receipts : ((dialogue.pair.conclude side receipt).party side).receipts =
        dialogue.ended side := by
      rw [own, ended, verdict]
      rfl
    have concluded : dialogue.conclude side = (dialogue.setPair (dialogue.pair.conclude side
        receipt)).setSpeaker side { dialogue.speaker side with verdict := none } := by
      unfold Dialogue.conclude
      simp only [verdict]
    rw [concluded] at reliable ⊢
    refine sound.even side (sound.toOrderly.change _ reliable becomes.peer ?_ ?_ ?_)
      (speaker_setSpeaker_other _) ?_ ?_
    · rw [own]
      rfl
    · rw [own]
      have precedes : (dialogue.pair.party side).Precedes
          ((dialogue.pair.party side).concluding id receipt) :=
        ⟨rfl, List.prefix_rfl, Pipe.conclude_settings ..⟩
      exact { (sound.speaker side).precedes precedes with }
    · have other := sound.speaker side.other
      rw [receipts]
      simpa using other
    · intro subject
      rcases side.eq_or_eq_other subject with rfl | rfl
      · rw [ended, speaker_setSpeaker_self, pair_setSpeaker, Dialogue.setPair, receipts]
        exact List.append_nil _
      · rw [ended, speaker_setSpeaker_other, pair_setSpeaker, Dialogue.setPair, becomes.peer]
        rfl
    · rw [speaker_setSpeaker_self]
      exact ⟨fun _ => rfl, fun _ => rfl⟩

/-! ## Messages are sent -/

/-- What sending a message does to the accounts: the message holds its call. -/
structure Sends (dialogue : Dialogue τ) (side : Side) (errand : Errand) (after : Dialogue τ) :
    Prop where
  peer : after.speaker side.other = dialogue.speaker side.other
  ended : ∀ subject, after.ended subject = dialogue.ended subject
  pending : (after.speaker side).pending = (dialogue.speaker side).pending
  calling : ∀ id, ((after.speaker side).calling (dialogue.ended side.other)).count id =
    ((dialogue.speaker side).calling (dialogue.ended side.other)).count id +
      errand.callId?.toList.count id
  owing : ∀ id, ((after.speaker side).owing (dialogue.ended side.other)).count id =
    ((dialogue.speaker side).owing (dialogue.ended side.other)).count id +
      errand.replyId?.toList.count id

/-- A message that has just been sent holds its call. -/
theorem Orderly.holds_of_submits (orderly : dialogue.Orderly) {errand : Errand}
    {sent : Except PipeError Ticket} {pair : Pair}
    (submits : Submits dialogue.pair side errand sent pair) :
    (Dispatch.mk errand sent).Holds (dialogue.ended side.other) := by
  cases submits with
  | refused error refuses => trivial
  | accepted bytes carried entered =>
    have unknown := List.getElem?_eq_none (orderly.ended_le side)
    simp [Dispatch.Holds, unknown]

theorem Orderly.sends_post (orderly : dialogue.Orderly) (side : Side)
    (message : ChannelMessage) :
    dialogue.Sends side message.errand (dialogue.post side message) := by
  obtain ⟨desk, sent, pair, posted, kept, submits⟩ := orderly.post_cases side message
  have holds := orderly.holds_of_submits submits
  have parties : ∀ subject,
      (pair.party subject).receipts = (dialogue.pair.party subject).receipts := by
    intro subject
    cases submits with
    | refused error refuses => rfl
    | accepted bytes carried entered =>
      rcases side.eq_or_eq_other subject with rfl | rfl
      · rw [entered.own]
        rfl
      · rw [entered.peer]
  rw [posted]
  exact
    { peer := speaker_setSpeaker_other _
      ended := fun subject => by
        rcases side.eq_or_eq_other subject with rfl | rfl
        · rw [ended, speaker_setSpeaker_self, pair_setSpeaker, Dialogue.setPair, parties]
          rfl
        · rw [ended, speaker_setSpeaker_other, pair_setSpeaker, Dialogue.setPair, parties]
          rfl
      pending := by
        rw [speaker_setSpeaker_self]
        exact congrArg (fun standing : CallTable × Bool => standing.1.busyIds) kept
      calling := fun id => by
        rw [speaker_setSpeaker_self]
        simp only [Speaker.calling, Dispatch.held_append, List.count_append,
          Dispatch.held_singleton _ holds]
      owing := fun id => by
        rw [speaker_setSpeaker_self]
        simp only [Speaker.owing, Dispatch.held_append, List.count_append,
          Dispatch.held_singleton _ holds]
        omega }

/-- A side changes something and sends a message, which makes up for the change. -/
theorem Sound.post (sound : dialogue.Sound) {speaker : Speaker τ}
    (orderly : (dialogue.setSpeaker side speaker).Orderly)
    (verdict : speaker.verdict = (dialogue.speaker side).verdict) (message : ChannelMessage)
    (reliable : ((dialogue.setSpeaker side speaker).post side message).pair.Reliable)
    (pending : ∀ id, speaker.pending.count id +
        ((dialogue.speaker side).calling (dialogue.ended side.other)).count id =
      (dialogue.speaker side).pending.count id +
        ((speaker.calling (dialogue.ended side.other)).count id +
          message.errand.callId?.toList.count id))
    (owing : ∀ id, (speaker.owing (dialogue.ended side.other)).count id +
        message.errand.replyId?.toList.count id =
      ((dialogue.speaker side).owing (dialogue.ended side.other)).count id) :
    ((dialogue.setSpeaker side speaker).post side message).Sound := by
  have sends := orderly.sends_post side message
  have before := ended_setSpeaker verdict
  refine sound.even side (orderly.post side message reliable)
    (sends.peer.trans (speaker_setSpeaker_other _))
    (fun subject => (sends.ended subject).trans (before subject)) ⟨fun id => ?_, fun id => ?_⟩
  · have called := sends.calling id
    rw [before, speaker_setSpeaker_self] at called
    rw [sends.pending, speaker_setSpeaker_self, called]
    exact pending id
  · have owed := sends.owing id
    rw [before, speaker_setSpeaker_self] at owed
    exact owed.trans (owing id)

/-- A call is started: its message holds it. -/
theorem Sound.start (sound : dialogue.Sound) (side : Side) (instanceId : String)
    (method : Method) (values : List Value) (callSite : String)
    (room : (dialogue.speaker side).desk.channel.calls.busyIds.length < UInt64.size)
    (reliable : (dialogue.start side instanceId method values callSite).pair.Reliable) :
    (dialogue.start side instanceId method values callSite).Sound := by
  have own := sound.speaker side
  obtain ⟨id, table, called, entered, fresh⟩ := own.exists_starting method callSite room
  have started : dialogue.start side instanceId method values callSite =
      (dialogue.setSpeaker side ((dialogue.speaker side).starting table)).post side
        (.call ⟨id, instanceId, method.signature, values⟩) := by
    rw [Dialogue.start, called]
    rfl
  rw [started] at reliable ⊢
  refine sound.post (sound.toOrderly.setSpeaker ((dialogue.speaker side).starting table) rfl
    (own.enter entered rfl fresh)) rfl _ reliable ?_ ?_
  · intro other
    have pending : ((dialogue.speaker side).starting table).pending =
        (dialogue.speaker side).pending ++ [id] := by
      simp [Speaker.pending, Speaker.starting, CallTable.busyIds, entered]
    rw [pending, List.count_append]
    simp only [Speaker.calling, Speaker.starting, ChannelMessage.errand, Errand.callId?,
      Option.toList_some]
    omega
  · exact fun _ => rfl

theorem Orderly.answer_eq_post (orderly : dialogue.Orderly) (side : Side) (id : UInt64)
    (outcome : Except RemoteError Value) :
    dialogue.answer side id outcome = dialogue.post side (.reply id outcome) := by
  simp [answer, (orderly.speaker side).isOpen]

/-- A job ends: the message of its return holds the call from now on. -/
theorem Sound.finish (sound : dialogue.Sound) (side : Side) (place : Nat)
    (outcome : Except RemoteError Value)
    (reliable : (dialogue.finish side place outcome).pair.Reliable) :
    (dialogue.finish side place outcome).Sound := by
  cases found : (dialogue.speaker side).jobs[place]? with
  | none =>
    unfold Dialogue.finish
    simpa only [found] using sound
  | some job =>
    have finished : dialogue.finish side place outcome =
        (dialogue.setSpeaker side ((dialogue.speaker side).finish place)).answer side job.callId
          outcome := by
      unfold Dialogue.finish
      simp only [found]
    have orderly := sound.toOrderly.setSpeaker ((dialogue.speaker side).finish place) rfl
      { sound.speaker side with }
    obtain ⟨bound, rfl⟩ := List.getElem?_eq_some_iff.mp found
    have perm := (List.getElem_cons_eraseIdx_perm bound).map CallRequest.callId
    rw [finished, orderly.answer_eq_post] at reliable ⊢
    refine sound.post orderly rfl _ reliable (fun _ => rfl) fun id => ?_
    have jobs := perm.count_eq id
    rw [List.map_cons, ← List.singleton_append, List.count_append] at jobs
    simp only [Speaker.owing, Speaker.finish, List.count_append, ChannelMessage.errand,
      Errand.replyId?, Option.toList_some]
    omega

/-! ## Tasks go on -/

/-- Where a task has its news from: its message was not sent, or the receiver of the peer has ended
with it. -/
theorem Orderly.news (orderly : dialogue.Orderly) {dispatch : Dispatch} {outcome : Outcome}
    (known : dispatch.outcome? (dialogue.pair.party side).reports = some outcome) :
    (∃ error, dispatch.sent = .error error ∧ outcome = .error error) ∨
      ∃ ticket receipt id, dispatch.sent = .ok ticket ∧
        (dialogue.ended side.other)[ticket]? = some receipt ∧
          outcome = MessageId.outcome id receipt.verdict := by
  unfold Dispatch.outcome? at known
  cases sent : dispatch.sent with
  | error error =>
    simp only [sent, Option.some.injEq] at known
    exact .inl ⟨error, rfl, known.symm⟩
  | ok ticket =>
    simp only [sent, Option.map_eq_some_iff] at known
    obtain ⟨⟨place, told⟩, found, rfl⟩ := known
    obtain rfl : place = ticket := by simpa using List.find?_some found
    obtain ⟨receipt, id, judged, same⟩ :=
      orderly.reliable.truthful side _ _ (List.mem_of_find?_eq_some found)
    exact .inr ⟨place, receipt, id, rfl, getElem?_of_isPrefix (List.prefix_append _ _) judged, same⟩

/-- What a task can learn of its message.  Either the peer has accepted it; or it still holds its
call, and the pipe or the peer has refused it. -/
theorem Orderly.outcome_cases (orderly : dialogue.Orderly) {dispatch : Dispatch}
    {outcome : Outcome} (listed : dispatch ∈ (dialogue.speaker side).dispatches)
    (known : dispatch.outcome? (dialogue.pair.party side).reports = some outcome) :
    ¬ dispatch.Holds (dialogue.ended side.other) ∧ outcome = .ok () ∨
      dispatch.Holds (dialogue.ended side.other) ∧ ∃ error, outcome = .error error ∧
        ((dialogue.pair.party side).Refuses dispatch.errand error ∨
          (∃ id reason, error = .rejected id reason) ∧ ∀ id, dispatch.errand ≠ .reply id true) := by
  have own := orderly.speaker side
  rcases orderly.news known with ⟨error, sent, rfl⟩ | ⟨ticket, receipt, id, sent, ended, rfl⟩
  · exact .inr ⟨by simp [Dispatch.Holds, sent], error, rfl,
      .inl (own.refused dispatch listed error sent)⟩
  · cases receipt with
    | accepted => exact .inl ⟨by simp [Dispatch.Holds, sent, ended], rfl⟩
    | refused reason =>
      refine .inr ⟨by simp [Dispatch.Holds, sent, ended], _, rfl, .inr ⟨⟨id, _, rfl⟩, ?_⟩⟩
      intro other failure
      cases own.heard dispatch listed other ticket _ failure sent ended
    | panicked =>
      refine .inr ⟨by simp [Dispatch.Holds, sent, ended], _, rfl, .inr ⟨⟨id, _, rfl⟩, ?_⟩⟩
      intro other failure
      cases own.heard dispatch listed other ticket _ failure sent ended

/-- What a task has learned of its message has been reported. -/
theorem reported_of_outcome {dispatch : Dispatch} {outcome : Outcome}
    (known : dispatch.outcome? (dialogue.pair.party side).reports = some outcome) {ticket : Ticket}
    (sent : dispatch.sent = .ok ticket) :
    ticket ∈ (dialogue.pair.party side).reports.map Prod.fst := by
  simp only [Dispatch.outcome?, sent, Option.map_eq_some_iff] at known
  obtain ⟨⟨place, told⟩, found, _⟩ := known
  obtain rfl : place = ticket := by simpa using List.find?_some found
  exact List.mem_map_of_mem (List.mem_of_find?_eq_some found)

/-- A return is given up only if too many messages are in flight. -/
theorem tooManyInFlight_of_not_unportable {party : Party} {id : UInt64} {failed : Bool}
    {error : PipeError}
    (refused : party.Refuses (.reply id failed) error ∨
      (∃ id reason, error = .rejected id reason) ∧
        ∀ other, Errand.reply id failed ≠ .reply other true)
    (given : Channel.unportable? failed error = none) :
    error = .tooManyInFlight party.pipe.settings.inFlightLimit := by
  have result : (∀ other, Errand.reply id failed ≠ .reply other true) → failed = false := by
    intro other
    cases failed with
    | false => rfl
    | true => exact absurd rfl (other id)
  rcases refused with refuses | ⟨⟨other, reason, rfl⟩, readable⟩
  · cases refuses with
    | full => rfl
    | unwritten reason writable =>
      obtain rfl := result writable
      cases given
  · obtain rfl := result readable
    cases given

section Settling

variable {place : Nat} {dispatch : Dispatch}

/-- A task goes on whose message the peer has accepted. -/
theorem Sound.dismiss (sound : dialogue.Sound)
    (found : (dialogue.speaker side).dispatches[place]? = some dispatch)
    (orderly : (dialogue.setSpeaker side ((dialogue.speaker side).dismiss place)).Orderly)
    (released : ¬ dispatch.Holds (dialogue.ended side.other)) :
    (dialogue.setSpeaker side ((dialogue.speaker side).dismiss place)).Sound := by
  have share : ∀ part id, (Dispatch.held part (dialogue.ended side.other)
      ((dialogue.speaker side).dismiss place).dispatches).count id =
        (Dispatch.held part (dialogue.ended side.other)
          (dialogue.speaker side).dispatches).count id := by
    intro part id
    rw [Dispatch.count_held_eraseIdx part id found, Dispatch.held_singleton_eq_nil part released,
      List.count_nil, Nat.zero_add]
    rfl
  refine sound.even side orderly (speaker_setSpeaker_other _) (ended_setSpeaker rfl) ?_
  rw [speaker_setSpeaker_self]
  refine ⟨fun id => ?_, fun id => ?_⟩
  · rw [Speaker.calling, Speaker.calling, share]
    rfl
  · simp only [Speaker.owing, List.count_append, share]
    rfl

/-- A task goes on whose message still holds its call: nothing but the message has held it. -/
theorem count_held_dismiss
    (found : (dialogue.speaker side).dispatches[place]? = some dispatch)
    (holds : dispatch.Holds (dialogue.ended side.other)) (part : Errand → Option UInt64)
    (id : UInt64) :
    (Dispatch.held part (dialogue.ended side.other) (dialogue.speaker side).dispatches).count id =
      (part dispatch.errand).toList.count id +
        (Dispatch.held part (dialogue.ended side.other)
          ((dialogue.speaker side).dismiss place).dispatches).count id := by
  rw [Dispatch.count_held_eraseIdx part id found, Dispatch.held_singleton part holds]
  rfl

/-- A call fails whose message was not delivered. -/
theorem Sound.fail (sound : dialogue.Sound) {id : UInt64}
    (found : (dialogue.speaker side).dispatches[place]? = some dispatch)
    (own : ((dialogue.speaker side).dismiss place).Orderly (dialogue.pair.party side)
      (dialogue.ended side.other))
    (holds : dispatch.Holds (dialogue.ended side.other)) (errand : dispatch.errand = .call id)
    (error : PipeError) :
    ((dialogue.setSpeaker side ((dialogue.speaker side).dismiss place)).follow side
      (.fail id error)).Sound := by
  have share := count_held_dismiss found holds
  have completed := own.complete id fun _ => .error (.ofPipeError error)
  have followed : (dialogue.setSpeaker side ((dialogue.speaker side).dismiss place)).follow side
      (.fail id error) = dialogue.setSpeaker side (((dialogue.speaker side).dismiss place).change
        (((dialogue.speaker side).dismiss place).desk.channel.completeCall id fun _ =>
          .error (.ofPipeError error))) := by
    simp only [follow, speaker_setSpeaker_self, setSpeaker_setSpeaker]
    rfl
  rw [followed]
  rcases Speaker.change_completeCall_cases own.distinct id fun _ => .error (.ofPipeError error) with
    ⟨absent, _⟩ | ⟨call, desk, changed, rfl, _, perm⟩
  · -- The message holds the call, so it is pending.
    have balanced := sound.balanced side id
    have holding := share Errand.callId? id
    rw [errand] at holding
    have none := List.count_eq_zero.mpr absent
    simp only [Errand.callId?, Option.toList_some, List.count_singleton_self] at holding
    simp only [Speaker.calling, Speaker.pending, Speaker.dismiss] at balanced holding none
    omega
  · rw [changed] at completed ⊢
    refine sound.even side (sound.toOrderly.setSpeaker _ rfl completed) (speaker_setSpeaker_other _)
      (ended_setSpeaker rfl) ?_
    rw [speaker_setSpeaker_self]
    have pending := (perm.map fun call => call.id).count_eq
    refine ⟨fun other => ?_, fun other => ?_⟩
    · have taken := pending other
      have holding := share Errand.callId? other
      rw [List.map_cons, ← List.singleton_append, List.count_append] at taken
      rw [errand, Errand.callId?, Option.toList_some] at holding
      simp only [Speaker.calling, Speaker.pending, Speaker.dismiss, CallTable.busyIds]
        at taken holding ⊢
      omega
    · have holding := share Errand.replyId? other
      rw [errand, Errand.replyId?, Option.toList_none, List.count_nil] at holding
      simp only [Speaker.owing, Speaker.dismiss, List.count_append] at holding ⊢
      omega

/-- A result that the peer cannot have is replaced by an error, whose message holds the call from
now on. -/
theorem Sound.replace (sound : dialogue.Sound) {id : UInt64} {failed : Bool}
    (found : (dialogue.speaker side).dispatches[place]? = some dispatch)
    (orderly : (dialogue.setSpeaker side ((dialogue.speaker side).dismiss place)).Orderly)
    (holds : dispatch.Holds (dialogue.ended side.other))
    (errand : dispatch.errand = .reply id failed) (reason : String)
    (reliable : ((dialogue.setSpeaker side ((dialogue.speaker side).dismiss place)).follow side
      (.replace id reason)).pair.Reliable) :
    ((dialogue.setSpeaker side ((dialogue.speaker side).dismiss place)).follow side
      (.replace id reason)).Sound := by
  have share := count_held_dismiss found holds
  rw [follow, orderly.answer_eq_post] at reliable ⊢
  refine sound.post orderly rfl _ reliable (fun other => ?_) fun other => ?_
  · have holding := share Errand.callId? other
    rw [errand, Errand.callId?, Option.toList_none, List.count_nil] at holding
    simp only [Speaker.calling, Speaker.pending, Speaker.dismiss, ChannelMessage.errand,
      Errand.callId?, Option.toList_none, List.count_nil] at holding ⊢
    omega
  · have holding := share Errand.replyId? other
    rw [errand] at holding
    simp only [Speaker.owing, Speaker.dismiss, List.count_append, ChannelMessage.errand,
      Errand.replyId?, Option.toList_some] at holding ⊢
    omega

/-- A return is given up, and the call stays with it. -/
theorem Sound.giveUp (sound : dialogue.Sound) {id : UInt64} {failed : Bool}
    (found : (dialogue.speaker side).dispatches[place]? = some dispatch)
    (own : ((dialogue.speaker side).dismiss place).Orderly (dialogue.pair.party side)
      (dialogue.ended side.other))
    (holds : dispatch.Holds (dialogue.ended side.other))
    (errand : dispatch.errand = .reply id failed) {error : PipeError}
    (full : error = .tooManyInFlight (dialogue.pair.party side).pipe.settings.inFlightLimit) :
    ((dialogue.setSpeaker side ((dialogue.speaker side).dismiss place)).follow side
      (.giveUp id error)).Sound := by
  have share := count_held_dismiss found holds
  have orderly := sound.toOrderly.setSpeaker { (dialogue.speaker side).dismiss place with
      givenUp := (dialogue.speaker side).givenUp ++ [(id, error)] } rfl
    { own with
      givenUp := by
        intro entry listed
        rcases List.mem_append.mp listed with before | last
        · exact own.givenUp entry before
        · obtain rfl := List.mem_singleton.mp last
          exact full }
  have followed : (dialogue.setSpeaker side ((dialogue.speaker side).dismiss place)).follow side
      (.giveUp id error) = dialogue.setSpeaker side { (dialogue.speaker side).dismiss place with
        givenUp := (dialogue.speaker side).givenUp ++ [(id, error)] } := by
    simp only [follow, speaker_setSpeaker_self, setSpeaker_setSpeaker]
    rfl
  rw [followed]
  refine sound.even side orderly (speaker_setSpeaker_other _) (ended_setSpeaker rfl) ?_
  rw [speaker_setSpeaker_self]
  refine ⟨fun other => ?_, fun other => ?_⟩
  · have holding := share Errand.callId? other
    rw [errand, Errand.callId?, Option.toList_none, List.count_nil] at holding
    simp only [Speaker.calling, Speaker.pending, Speaker.dismiss] at holding ⊢
    omega
  · have holding := share Errand.replyId? other
    rw [errand, Errand.replyId?, Option.toList_some] at holding
    simp only [Speaker.owing, Speaker.dismiss, List.count_append, List.map_append, List.map_cons,
      List.map_nil] at holding ⊢
    omega

/-- A task goes on, and what has to follow is done. -/
theorem Sound.settle (sound : dialogue.Sound) (side : Side) (place : Nat)
    (reliable : (dialogue.settle side place).pair.Reliable) :
    (dialogue.settle side place).Sound := by
  cases found : (dialogue.speaker side).dispatches[place]? with
  | none =>
    unfold Dialogue.settle
    simpa only [found] using sound
  | some dispatch =>
    cases known : dispatch.outcome? (dialogue.pair.party side).reports with
    | none =>
      unfold Dialogue.settle
      simpa only [found, known] using sound
    | some outcome =>
      have settled : dialogue.settle side place =
          (dialogue.setSpeaker side ((dialogue.speaker side).dismiss place)).follow side
            (Channel.aftermath dispatch.errand outcome) := by
        unfold Dialogue.settle
        simp only [found, known]
      have own := (sound.speaker side).dismiss found fun _ sent => reported_of_outcome known sent
      have orderly := sound.toOrderly.setSpeaker ((dialogue.speaker side).dismiss place) rfl own
      rw [settled] at reliable ⊢
      rcases sound.toOrderly.outcome_cases (List.mem_of_getElem? found) known with
        ⟨released, rfl⟩ | ⟨holds, error, rfl, refused⟩
      · have nothing : Channel.aftermath dispatch.errand (.ok ()) = .nothing := by
          cases dispatch.errand <;> rfl
        rw [nothing]
        exact sound.dismiss found orderly released
      · cases errand : dispatch.errand with
        | call id => exact sound.fail found own holds errand error
        | reply id failed =>
          rw [errand] at refused
          cases unportable : Channel.unportable? failed error with
          | some reason =>
            simp only [errand, Channel.aftermath, unportable] at reliable ⊢
            exact sound.replace found orderly holds errand reason reliable
          | none =>
            simp only [Channel.aftermath, unportable]
            exact sound.giveUp found own holds errand
              (tooManyInFlight_of_not_unportable refused unportable)

end Settling

/-! ## Messages are taken -/

/-- The next message is the one that the peer has sent next. -/
theorem Orderly.next_accepted (orderly : dialogue.Orderly) {id : MessageId} {body : Bytes}
    {rest : List (MessageId × Bytes)}
    (waiting : (dialogue.pair.party side).pipe.waiting = (id, body) :: rest) :
    (dialogue.pair.party side.other).accepted[(dialogue.ended side).length]? = some body := by
  obtain ⟨further, inOrder⟩ := orderly.reliable.inOrder side.other
  rw [Side.other_other] at inOrder
  rw [← inOrder, waiting, orderly.length_ended side]
  simp

/-- The task of the peer that waits for the next message. -/
theorem Orderly.next_dispatch (orderly : dialogue.Orderly) {id : MessageId} {body : Bytes}
    {rest : List (MessageId × Bytes)}
    (waiting : (dialogue.pair.party side).pipe.waiting = (id, body) :: rest)
    (idle : (dialogue.pair.party side).busy = none) :
    ∃ dispatch ∈ (dialogue.speaker side.other).dispatches,
      dispatch.sent = .ok (dialogue.ended side).length ∧ dispatch.errand.CarriedBy body := by
  have length := orderly.length_ended side
  have idle := orderly.reliable.idle side idle
  have accepted := orderly.next_accepted waiting
  have bound := (List.getElem?_eq_some_iff.mp accepted).1
  -- What is reported is of a message that the receiver has ended with.
  have unreported : (dialogue.ended side).length ∉
      (dialogue.pair.party side.other).reports.map Prod.fst := by
    intro told
    obtain ⟨⟨_, outcome⟩, listed, rfl⟩ := List.mem_map.mp told
    obtain ⟨receipt, _, judged, _⟩ := orderly.reliable.truthful side.other _ outcome listed
    rw [Side.other_other] at judged
    have ended := (List.getElem?_eq_some_iff.mp judged).1
    omega
  obtain ⟨dispatch, listed, sent⟩ :=
    (orderly.speaker side.other).awaited (dialogue.ended side).length unreported bound
  obtain ⟨bytes, same, carried⟩ := (orderly.speaker side.other).carried dispatch listed _ sent
  obtain rfl := Option.some.inj (accepted.symm.trans same)
  exact ⟨dispatch, listed, sent, carried⟩

/-- A side ends with a message of its peer, which then stands among its receipts.  What the message
held passes to that side, or leaves the accounts of both. -/
structure Ends (dialogue : Dialogue τ) (side : Side) (speaker : Speaker τ) (receipt : Receipt) :
    Prop where
  verdict : speaker.verdict = some receipt
  orderly : speaker.Orderly (dialogue.pair.party side) (dialogue.ended side.other)
  dispatches : speaker.dispatches = (dialogue.speaker side).dispatches
  /-- Only a message that can be read is accepted, and an error can be read. -/
  honest : receipt = .accepted ∨ ∀ dispatch ∈ (dialogue.speaker side.other).dispatches, ∀ id,
    dispatch.errand = .reply id true → dispatch.sent ≠ .ok (dialogue.ended side).length
  pending : ∀ id, speaker.pending.count id +
      ((dialogue.speaker side.other).owing (dialogue.ended side)).count id =
    (dialogue.speaker side).pending.count id +
      ((dialogue.speaker side.other).owing (dialogue.ended side ++ [receipt])).count id
  owing : ∀ id, (speaker.owing (dialogue.ended side.other)).count id +
      ((dialogue.speaker side.other).calling (dialogue.ended side ++ [receipt])).count id =
    ((dialogue.speaker side).owing (dialogue.ended side.other)).count id +
      ((dialogue.speaker side.other).calling (dialogue.ended side)).count id

section Taking

variable {speaker : Speaker τ} {receipt : Receipt} {party : Party} {sending receiving : Course}

/-- The receiver had ended with all earlier messages. -/
theorem ended_hand_self (orderly : dialogue.Orderly)
    (idle : (dialogue.pair.party side).busy = none)
    (receipts : ((dialogue.pair.hand side).party side).receipts =
      (dialogue.pair.party side).receipts)
    (verdict : speaker.verdict = some receipt) :
    ((dialogue.setPair (dialogue.pair.hand side)).setSpeaker side speaker).ended side =
      dialogue.ended side ++ [receipt] := by
  have unjudged : (dialogue.speaker side).verdict = none := by
    have judged := orderly.judged side
    rw [idle] at judged
    simpa using judged
  rw [ended, speaker_setSpeaker_self, pair_setSpeaker, Dialogue.setPair, receipts, verdict, ended,
    unjudged]
  simp

theorem ended_hand_other (speaker : Speaker τ)
    (handed : dialogue.pair.Becomes side (dialogue.pair.hand side) party sending receiving) :
    ((dialogue.setPair (dialogue.pair.hand side)).setSpeaker side speaker).ended side.other =
      dialogue.ended side.other := by
  rw [ended, speaker_setSpeaker_other, pair_setSpeaker, Dialogue.setPair, handed.peer]
  rfl

/-- The receiver of one side takes a message, with which it is going to end in one way. -/
theorem Sound.hand (sound : dialogue.Sound) (idle : (dialogue.pair.party side).busy = none)
    (reliable : (dialogue.pair.hand side).Reliable)
    (handed : dialogue.pair.Becomes side (dialogue.pair.hand side) party sending receiving)
    (busy : party.busy.isSome) (precedes : (dialogue.pair.party side).Precedes party)
    (receipts : party.receipts = (dialogue.pair.party side).receipts)
    (ends : dialogue.Ends side speaker receipt) :
    ((dialogue.setPair (dialogue.pair.hand side)).setSpeaker side speaker).Sound := by
  have own := ended_hand_self sound.toOrderly idle (handed.own ▸ receipts) ends.verdict
  have other := ended_hand_other speaker handed
  have peer := sound.speaker side.other
  rw [Side.other_other] at peer
  refine
    { toOrderly := sound.toOrderly.change speaker reliable handed.peer ?_ ?_ ?_
      balanced := fun subject id => ?_ }
  · rw [handed.own, ends.verdict, busy]
    rfl
  · rw [handed.own]
    exact ends.orderly.precedes precedes
  · rw [ended, speaker_setSpeaker_self] at own
    rw [show ((dialogue.pair.hand side).party side).receipts ++ speaker.verdict.toList = _ from own]
    exact peer.judge ends.honest
  · have balanced := sound.balanced subject id
    rcases side.eq_or_eq_other subject with rfl | rfl
    · have changed := ends.pending id
      rw [speaker_setSpeaker_self, speaker_setSpeaker_other, own, other]
      rw [Speaker.calling] at balanced ⊢
      rw [ends.dispatches]
      simp only [Dialogue.setPair]
      omega
    · have changed := ends.owing id
      rw [Side.other_other] at balanced ⊢
      rw [speaker_setSpeaker_self, speaker_setSpeaker_other, own, other]
      simp only [Dialogue.setPair]
      omega

variable {dispatch : Dispatch} {desk : Desk τ}

/-- A message that cannot be read keeps what it holds; it is the peer that goes on with it. -/
theorem Sound.ends_refused (sound : dialogue.Sound)
    (listed : dispatch ∈ (dialogue.speaker side.other).dispatches)
    (sent : dispatch.sent = .ok (dialogue.ended side).length)
    (kept : desk.standing = (dialogue.speaker side).desk.standing)
    (readable : ∀ id, dispatch.errand ≠ .reply id true) (reason : String) :
    dialogue.Ends side { dialogue.speaker side with desk, verdict := some (.refused reason) }
      (.refused reason) where
  verdict := rfl
  orderly := { (sound.speaker side).desk kept with }
  dispatches := rfl
  honest := by
    right
    intro other elsewhere id failure same
    obtain ⟨before, behind, split, others⟩ :=
      Dispatch.alone_of_tickets (sound.speaker side.other).tickets listed sent
    rw [split] at elsewhere
    rcases List.mem_cons.mp (List.perm_middle.mem_iff.mp elsewhere) with rfl | apart
    · exact readable id failure
    · exact others other apart same
  pending other := by
    rw [Speaker.owing_refused _ (by simp)]
    exact congrArg (fun list => List.count other list + _) (Speaker.pending_desk kept)
  owing other := by
    rw [Speaker.calling_refused _ (by simp)]
    rfl

/-- A call becomes a job of the side that takes it. -/
theorem Sound.ends_called (sound : dialogue.Sound) {request : CallRequest}
    (listed : dispatch ∈ (dialogue.speaker side.other).dispatches)
    (sent : dispatch.sent = .ok (dialogue.ended side).length)
    (errand : dispatch.errand = .call request.callId)
    (kept : desk.standing = (dialogue.speaker side).desk.standing) :
    dialogue.Ends side
      { dialogue.speaker side with
        desk
        verdict := some .accepted
        jobs := (dialogue.speaker side).jobs ++ [request] } .accepted where
  verdict := rfl
  orderly := { (sound.speaker side).desk kept with }
  dispatches := rfl
  honest := .inl rfl
  pending other := by
    have pending := Speaker.pending_desk kept
    have owed := Speaker.count_owing_accepted (sound.speaker side.other).tickets listed sent other
    rw [errand, Errand.replyId?, Option.toList_none, List.count_nil] at owed
    simp only [Speaker.pending] at pending ⊢
    rw [pending]
    omega
  owing other := by
    have called :=
      Speaker.count_calling_accepted (sound.speaker side.other).tickets listed sent other
    rw [errand, Errand.callId?, Option.toList_some] at called
    simp only [Speaker.owing, List.map_append, List.map_cons, List.map_nil, List.count_append]
    omega

/-- A return completes the call that it is about, which is pending since the message holds it. -/
theorem Sound.ends_answered (sound : dialogue.Sound) {id : UInt64} {failed : Bool}
    (listed : dispatch ∈ (dialogue.speaker side.other).dispatches)
    (sent : dispatch.sent = .ok (dialogue.ended side).length)
    (errand : dispatch.errand = .reply id failed)
    (kept : desk.standing = (dialogue.speaker side).desk.standing)
    (result : PendingCall → CallResult) :
    dialogue.Ends side
      ({ dialogue.speaker side with desk, verdict := some .accepted }.change
        (desk.channel.completeCall id result)) .accepted := by
  have tickets := (sound.speaker side.other).tickets
  have returns := Speaker.count_owing_accepted tickets listed sent
  have returned := returns id
  have standing := Speaker.pending_desk kept
  rw [errand, Errand.replyId?, Option.toList_some, List.count_singleton_self] at returned
  have kept :
      ({ dialogue.speaker side with desk, verdict := some .accepted } : Speaker τ).Orderly
      (dialogue.pair.party side) (dialogue.ended side.other) :=
    { (sound.speaker side).desk kept with }
  have completed := kept.complete id result
  rcases Speaker.change_completeCall_cases kept.distinct id result with
    ⟨absent, _⟩ | ⟨call, after, changed, rfl, _, perm⟩
  · have balanced := sound.balanced side id
    have none := List.count_eq_zero.mpr absent
    simp only [Speaker.pending] at standing balanced none
    rw [standing] at none
    omega
  · rw [changed] at completed ⊢
    refine ⟨rfl, completed, rfl, .inl rfl, ?_, ?_⟩
    · intro other
      have taken : (desk.channel.calls.pending.map fun call => call.id).count other =
          ((call :: after.channel.calls.pending).map fun call => call.id).count other :=
        (perm.map fun call => call.id).count_eq other
      have owed := returns other
      rw [List.map_cons, ← List.singleton_append, List.count_append] at taken
      rw [errand, Errand.replyId?, Option.toList_some] at owed
      simp only [Speaker.pending, CallTable.busyIds] at standing ⊢
      rw [← standing]
      omega
    · intro other
      have called := Speaker.count_calling_accepted tickets listed sent other
      rw [errand, Errand.callId?, Option.toList_none, List.count_nil] at called
      simp only [Speaker.owing]
      omega

/-- A message is taken and shown to the channel. -/
theorem Sound.take (sound : dialogue.Sound) (side : Side)
    (idle : (dialogue.pair.party side).busy = none)
    (reliable : (dialogue.take side).pair.Reliable) : (dialogue.take side).Sound := by
  rcases dialogue.pair.hand_cases side with ⟨waiting, _⟩ | ⟨id, body, rest, waiting, handed⟩
  · unfold Dialogue.take
    simpa only [waiting] using sound
  · obtain ⟨dispatch, listed, sent, carried⟩ := sound.toOrderly.next_dispatch waiting idle
    have taken : dialogue.take side = (dialogue.setPair (dialogue.pair.hand side)).setSpeaker side
        ((dialogue.speaker side).hear body) := by
      unfold Dialogue.take
      simp only [waiting]
    obtain ⟨receipt, ends⟩ :
        ∃ receipt, dialogue.Ends side ((dialogue.speaker side).hear body) receipt := by
      obtain ⟨errand, named⟩ : ∃ errand, dispatch.errand = errand := ⟨_, rfl⟩
      obtain ⟨speaker, heard⟩ : ∃ speaker, (dialogue.speaker side).hear body = speaker := ⟨_, rfl⟩
      have hears := (dialogue.speaker side).hears_hear carried
      rw [named, heard] at hears
      rw [heard]
      cases hears with
      | refused errand desk reason kept readable =>
        exact ⟨_, sound.ends_refused listed sent kept (named ▸ readable) reason⟩
      | called request desk kept => exact ⟨_, sound.ends_called listed sent named kept⟩
      | answered id failed desk kept result =>
        exact ⟨_, sound.ends_answered listed sent named kept result⟩
    rw [taken] at reliable ⊢
    exact sound.hand idle reliable handed rfl ⟨rfl, List.prefix_rfl, rfl⟩ rfl ends

end Taking

end Dialogue

end Courier
