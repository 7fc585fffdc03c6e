import Courier.Proofs.Rpc.Resolution

/-!
# What the operations of a dialogue change

An operation at one side of a dialogue changes the speaker of this side, may send
messages, and may settle how the receiver of this side ends with a message.  All
else that a speaker can notice stays as it was at both sides.
-/

namespace Courier

set_option autoImplicit false

namespace Dialogue

variable {τ : Type} {dialogue between after : Dialogue τ} {side : Side}
  {speaker : Speaker τ}

/-- The speaker of a side has become another, it has sent some messages, and its receiver has ended
with some messages of the peer or is going to. -/
structure Changes (dialogue after : Dialogue τ) (side : Side) (speaker : Speaker τ)
    (sent : List Bytes) (receipts : List Receipt) : Prop where
  own : after.speaker side = speaker
  peer : after.speaker side.other = dialogue.speaker side.other
  accepted : (after.pair.party side).accepted = (dialogue.pair.party side).accepted ++ sent
  quiet : (after.pair.party side.other).accepted = (dialogue.pair.party side.other).accepted
  ended : after.ended side = dialogue.ended side ++ receipts
  apart : after.ended side.other = dialogue.ended side.other
  settings : ∀ subject,
    (after.pair.party subject).pipe.settings = (dialogue.pair.party subject).pipe.settings

theorem Changes.refl (dialogue : Dialogue τ) (side : Side) :
    dialogue.Changes dialogue side (dialogue.speaker side) [] [] :=
  ⟨rfl, rfl, (List.append_nil _).symm, rfl, (List.append_nil _).symm, rfl, fun _ => rfl⟩

theorem Changes.trans {speaker' : Speaker τ} {sent sent' : List Bytes}
    {receipts receipts' : List Receipt}
    (first : dialogue.Changes between side speaker sent receipts)
    (second : between.Changes after side speaker' sent' receipts') :
    dialogue.Changes after side speaker' (sent ++ sent') (receipts ++ receipts') where
  own := second.own
  peer := second.peer.trans first.peer
  accepted := by rw [second.accepted, first.accepted, List.append_assoc]
  quiet := second.quiet.trans first.quiet
  ended := by rw [second.ended, first.ended, List.append_assoc]
  apart := second.apart.trans first.apart
  settings subject := (second.settings subject).trans (first.settings subject)

theorem Changes.setSpeaker (verdict : speaker.verdict = (dialogue.speaker side).verdict) :
    dialogue.Changes (dialogue.setSpeaker side speaker) side speaker [] [] where
  own := speaker_setSpeaker_self _
  peer := speaker_setSpeaker_other _
  accepted := (List.append_nil _).symm
  quiet := rfl
  ended := (ended_setSpeaker verdict side).trans (List.append_nil _).symm
  apart := ended_setSpeaker verdict side.other
  settings _ := rfl

/-- The pipe of a side and its speaker have changed. -/
theorem Changes.of_becomes {pair : Pair} {party : Party} {sending receiving : Course}
    {sent : List Bytes} {receipts : List Receipt}
    (becomes : dialogue.pair.Becomes side pair party sending receiving)
    (accepted : party.accepted = (dialogue.pair.party side).accepted ++ sent)
    (settings : party.pipe.settings = (dialogue.pair.party side).pipe.settings)
    (ended : party.receipts ++ speaker.verdict.toList = dialogue.ended side ++ receipts) :
    dialogue.Changes ((dialogue.setPair pair).setSpeaker side speaker) side speaker sent
      receipts where
  own := speaker_setSpeaker_self _
  peer := speaker_setSpeaker_other _
  accepted := by rw [pair_setSpeaker, Dialogue.setPair, becomes.own, accepted]
  quiet := by rw [pair_setSpeaker, Dialogue.setPair, becomes.peer]
  ended := by
    rw [Dialogue.ended, speaker_setSpeaker_self, pair_setSpeaker, Dialogue.setPair, becomes.own,
      ended]
  apart := by
    rw [Dialogue.ended, speaker_setSpeaker_other, pair_setSpeaker, Dialogue.setPair, becomes.peer]
    rfl
  settings subject := by
    rw [pair_setSpeaker, Dialogue.setPair]
    rcases side.eq_or_eq_other subject with rfl | rfl
    · rw [becomes.own, settings]
    · rw [becomes.peer]

/-- Something has happened on the streams. -/
theorem Changes.setPair {pair : Pair}
    (moves : ∀ side, (dialogue.pair.party side).Moves (pair.party side)) (side : Side) :
    dialogue.Changes (dialogue.setPair pair) side (dialogue.speaker side) [] [] where
  own := rfl
  peer := rfl
  accepted := (moves side).accepted.trans (List.append_nil _).symm
  quiet := (moves side.other).accepted
  ended := (ended_setPair moves side).trans (List.append_nil _).symm
  apart := ended_setPair moves side.other
  settings subject := (moves subject).settings

/-- The receiver ends as it was going to. -/
theorem Sound.changes_conclude (sound : dialogue.Sound) (side : Side) :
    dialogue.Changes (dialogue.conclude side) side
      { dialogue.speaker side with verdict := none } [] [] := by
  cases verdict : (dialogue.speaker side).verdict with
  | none =>
    have same : ({ dialogue.speaker side with verdict := none } : Speaker τ) =
        dialogue.speaker side := by rw [← verdict]
    simp only [Dialogue.conclude, verdict, same]
    exact .refl dialogue side
  | some receipt =>
    obtain ⟨id, busy⟩ : ∃ id, (dialogue.pair.party side).busy = some id := by
      refine Option.isSome_iff_exists.mp ?_
      rw [← sound.judged side, verdict]
      rfl
    have becomes := sound.reliable.conclude_becomes busy receipt
    simp only [Dialogue.conclude, verdict]
    refine .of_becomes becomes (List.append_nil _).symm (Pipe.conclude_settings ..) ?_
    rw [ended, verdict]
    rfl

/-! ## Messages are sent -/

/-- Whether a message that is posted next is sent: its number, or why it is not. -/
def sending (dialogue : Dialogue τ) (side : Side) (message : ChannelMessage) :
    Except PipeError Ticket :=
  (dialogue.pair.submit side ((message.encode (Desk.chain (dialogue.speaker side).further)).run
    (dialogue.speaker side).desk).1).1

/-- What has become of a message that was marshaled at a desk and given to the pipe of a side. -/
inductive Posts (dialogue : Dialogue τ) (side : Side) (desk : Desk τ) (message : ChannelMessage) :
    Except PipeError Ticket → Prop
  | full : Posts dialogue side desk message
      (.error (.tooManyInFlight (dialogue.pair.party side).pipe.settings.inFlightLimit))
  | unwritten {fault : MarshalError} {after : Desk τ}
      (failed : (message.encode (Desk.chain [])).run desk = (.error fault, after)) :
      Posts dialogue side desk message (.error (.marshal fault.message))
  | sent {bytes : Bytes} {after : Desk τ} {number : Ticket}
      (written : (message.encode (Desk.chain [])).run desk = (.ok bytes, after))
      (accepted : (dialogue.pair.party side).accepted[number]? = some bytes) :
      Posts dialogue side desk message (.ok number)

/-- A message is posted: a task waits for it, and it is sent unless it cannot be. -/
theorem Orderly.changes_post (orderly : dialogue.Orderly) (side : Side)
    (plain : (dialogue.speaker side).further = []) (message : ChannelMessage) :
    ∃ bytes, dialogue.Changes (dialogue.post side message) side
        { dialogue.speaker side with
          desk := ((message.encode (Desk.chain [])).run (dialogue.speaker side).desk).2
          dispatches := (dialogue.speaker side).dispatches ++
            [⟨message.errand, dialogue.sending side message⟩] } bytes [] ∧
      (dialogue.post side message).Posts side (dialogue.speaker side).desk message
        (dialogue.sending side message) ∧
      ∀ number, dialogue.sending side message = .ok number →
        number = (dialogue.pair.party side).accepted.length := by
  obtain ⟨written, desk, run⟩ : ∃ written desk,
      (message.encode (Desk.chain [])).run (dialogue.speaker side).desk = (written, desk) :=
    ⟨_, _, rfl⟩
  have sending : dialogue.sending side message = (dialogue.pair.submit side written).1 := by
    simp only [Dialogue.sending, plain, run]
  have posted : dialogue.post side message =
      (dialogue.setPair (dialogue.pair.submit side written).2).setSpeaker side
        { dialogue.speaker side with
          desk
          dispatches := (dialogue.speaker side).dispatches ++
            [⟨message.errand, (dialogue.pair.submit side written).1⟩] } := by
    simp only [Dialogue.post, plain, run]
  rw [posted, sending, run]
  cases written with
  | error fault =>
    exact ⟨[], .setSpeaker rfl, .unwritten run, fun number same => by cases same⟩
  | ok bytes =>
    rcases dialogue.pair.send_cases side bytes (orderly.reliable.regular side).sent with
      ⟨error, reason, refused, same⟩ | ⟨_, _, accepted, _, _, entered⟩
    · have submitted : dialogue.pair.submit side (.ok bytes) = (.error error, dialogue.pair) := by
        simp only [Pair.submit, refused, same]
        rfl
      obtain rfl : error = _ := reason.resolve_right (by simp [orderly.reliable.isOpen side])
      rw [submitted]
      exact ⟨[], .setSpeaker rfl, .full, fun number same => by cases same⟩
    · have submitted : dialogue.pair.submit side (.ok bytes) =
          (.ok (dialogue.pair.party side).accepted.length, dialogue.pair.send side bytes) := by
        simp only [Pair.submit, accepted]
        rfl
      rw [submitted]
      refine ⟨[bytes], ?_, .sent run ?_, fun number same => (Except.ok.inj same).symm⟩
      · exact .of_becomes entered rfl rfl (List.append_nil _).symm
      · rw [pair_setSpeaker, Dialogue.setPair, entered.own]
        exact List.getElem?_concat_length

/-! ## Messages are taken -/

/-- The receiver of a side takes the next message, and the channel makes of it what it does. -/
theorem Sound.changes_take (sound : dialogue.Sound)
    (idle : (dialogue.pair.party side).busy = none) {id : MessageId} {body : Bytes}
    {rest : List (MessageId × Bytes)} {receipt : Receipt}
    (waiting : (dialogue.pair.party side).pipe.waiting = (id, body) :: rest)
    (heard : (dialogue.speaker side).hear body = speaker)
    (verdict : speaker.verdict = some receipt) :
    dialogue.Changes (dialogue.take side) side speaker [] [receipt] := by
  rcases dialogue.pair.hand_cases side with ⟨none, _⟩ | ⟨id', body', rest', waiting', handed⟩
  · rw [none] at waiting
    cases waiting
  · obtain ⟨⟨rfl, rfl⟩, rfl⟩ : (id = id' ∧ body = body') ∧ rest = rest' := by
      simpa using waiting.symm.trans waiting'
    have taken : dialogue.take side =
        (dialogue.setPair (dialogue.pair.hand side)).setSpeaker side speaker := by
      simp only [Dialogue.take, waiting, heard]
    rw [taken]
    have ended := ended_hand_self sound.toOrderly idle (by rw [handed.own]; rfl) verdict
    rw [Dialogue.ended, speaker_setSpeaker_self, pair_setSpeaker, Dialogue.setPair, handed.own]
      at ended
    exact .of_becomes handed (List.append_nil _).symm rfl ended

end Dialogue

end Courier
