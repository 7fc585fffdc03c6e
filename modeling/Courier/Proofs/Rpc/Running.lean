import Courier.Proofs.Rpc.Balance

/-!
# Runs of two channels

Whatever two channels do, it comes down to a few things that they do with their pipes: they send
a message or none, their receivers take one or end with one, and the rest happens on the streams
(`Pair.Use`).  Neither pipe is ever closed by it.  So, as long as the pipes can be relied on, the
dialogue of the two channels is in order and its accounts balance, after any moves
(`Dialogue.sound_of_moves`).
-/

namespace Courier

set_option autoImplicit false

/-! ## What channels do with their pipes -/

namespace Pair

variable {pair after : Pair} {side : Side} {stream : StreamId}

/-- A side has sent one message, or none. -/
def Sends (pair : Pair) (side : Side) (after : Pair) : Prop :=
  after = pair ∨ ∃ body, after = pair.send side body

theorem sends_submit (pair : Pair) (side : Side) (written : Except MarshalError Bytes) :
    pair.Sends side (pair.submit side written).2 := by
  cases written with
  | error fault => exact .inl rfl
  | ok bytes => exact .inr ⟨bytes, rfl⟩

theorem Sends.steady (sends : pair.Sends side after) (steady : pair.Steady stream) :
    after.Steady stream := by
  rcases sends with rfl | ⟨body, rfl⟩
  · exact steady
  · exact steady.send side body

/-- What two channels do with their pipes, and what happens to the pipes meanwhile. -/
inductive Use (pair : Pair) : Pair → Prop
  | transit {after : Pair} (transit : pair.Transit after) : Use pair after
  | sends {after : Pair} (side : Side) (sends : pair.Sends side after) : Use pair after
  | hand (side : Side) (running : (pair.party side).pipe.reception = .running)
      (idle : (pair.party side).busy = none) : Use pair (pair.hand side)
  | conclude (side : Side) (receipt : Receipt) : Use pair (pair.conclude side receipt)

theorem Use.nothing (pair : Pair) : pair.Use pair := .sends .a (.inl rfl)

theorem Use.step (use : pair.Use after) : after = pair ∨ Step pair after := by
  cases use with
  | transit transit => exact .inr transit.step
  | sends side sends =>
    rcases sends with rfl | ⟨body, rfl⟩
    · exact .inl rfl
    · exact .inr (.send side body)
  | hand side running idle => exact .inr (.hand side running idle)
  | conclude side receipt => exact .inr (.conclude side receipt)

theorem Use.isOpen (use : pair.Use after) (isOpen : pair.Open) : after.Open := by
  have further : pair.Continues after → after.Open := fun continues side =>
    (continues.connected side).closed.trans (isOpen side)
  cases use with
  | transit transit => exact fun side => (transit.moves side).closed.trans (isOpen side)
  | sends side sends =>
    rcases sends with rfl | ⟨body, rfl⟩
    · exact isOpen
    · exact further (pair.continues_send side body)
  | hand side => exact further (pair.continues_hand side)
  | conclude side receipt => exact further (pair.continues_conclude side receipt)

end Pair

namespace Dialogue

variable {τ : Type} {dialogue after : Dialogue τ} {side : Side} {stream : StreamId}

theorem sends_post (dialogue : Dialogue τ) (side : Side) (message : ChannelMessage) :
    dialogue.pair.Sends side (dialogue.post side message).pair :=
  dialogue.pair.sends_submit side _

theorem sends_answer (dialogue : Dialogue τ) (side : Side) (id : UInt64)
    (outcome : Except RemoteError Value) :
    dialogue.pair.Sends side (dialogue.answer side id outcome).pair := by
  unfold answer
  split
  · exact .inl rfl
  · exact dialogue.sends_post side _

theorem sends_start (dialogue : Dialogue τ) (side : Side) (instanceId : String) (method : Method)
    (values : List Value) (callSite : String) :
    dialogue.pair.Sends side (dialogue.start side instanceId method values callSite).pair := by
  unfold start
  simp only
  split
  · exact .inl rfl
  · exact sends_post _ side _

theorem sends_finish (dialogue : Dialogue τ) (side : Side) (place : Nat)
    (outcome : Except RemoteError Value) :
    dialogue.pair.Sends side (dialogue.finish side place outcome).pair := by
  unfold finish
  simp only
  split
  · exact .inl rfl
  · exact sends_answer _ side _ outcome

theorem sends_follow (dialogue : Dialogue τ) (side : Side) (aftermath : Channel.Aftermath) :
    dialogue.pair.Sends side (dialogue.follow side aftermath).pair := by
  cases aftermath with
  | replace id reason => exact dialogue.sends_answer side id _
  | nothing | fail | giveUp => exact .inl rfl

theorem sends_settle (dialogue : Dialogue τ) (side : Side) (place : Nat) :
    dialogue.pair.Sends side (dialogue.settle side place).pair := by
  unfold settle
  simp only
  split
  · exact .inl rfl
  · split
    · exact .inl rfl
    · exact sends_follow _ side _

theorem use_take (dialogue : Dialogue τ) (side : Side)
    (running : (dialogue.pair.party side).pipe.reception = .running)
    (idle : (dialogue.pair.party side).busy = none) :
    dialogue.pair.Use (dialogue.take side).pair := by
  unfold take
  split
  · exact .nothing _
  · exact .hand side running idle

theorem use_conclude (dialogue : Dialogue τ) (side : Side) :
    dialogue.pair.Use (dialogue.conclude side).pair := by
  unfold conclude
  simp only
  split
  · exact .nothing _
  · exact .conclude side _

theorem Move.use (move : Move dialogue after) : dialogue.pair.Use after.pair := by
  cases move with
  | transit transit => exact .transit transit
  | take side running idle => exact dialogue.use_take side running idle
  | conclude side => exact dialogue.use_conclude side
  | start side instanceId method values callSite =>
    exact .sends side (dialogue.sends_start side instanceId method values callSite)
  | finish side place outcome => exact .sends side (dialogue.sends_finish side place outcome)
  | settle side place => exact .sends side (dialogue.sends_settle side place)
  | work => exact .nothing _

theorem Move.kept (move : Move dialogue after) (isOpen : after.pair.Open)
    (kept : after.pair.Kept) : dialogue.pair.Kept := by
  rcases move.use.step with same | step
  · exact same ▸ kept
  · exact step.kept isOpen kept

/-! ## Accounts after any moves -/

section Beginning

variable (settings : Side → PipeSettings) (number : Side → Nat) (mark : Side → Nat → UInt64)
  (singletons : Side → Singletons) (kept : Side → τ) (further : Side → List (Stage τ))

/-- Two channels before anything has happened. -/
theorem Sound.new : (Dialogue.new settings fun side =>
    .new (.new (number side) (mark side) (singletons side)) (kept side) (further side)).Sound := by
  have parties : ∀ side,
      ((((Pair.new settings).bind .a).bind .b).party side).receipts = [] ∧
        ((((Pair.new settings).bind .a).bind .b).party side).busy = none ∧
        ((((Pair.new settings).bind .a).bind .b).party side).accepted = [] := by
    intro side
    cases side <;> exact ⟨rfl, rfl, rfl⟩
  have steady := ((Pair.Steady.new settings 0).bind .a).bind .b
  exact
    { reliable := steady.reliable
      judged := fun side => by
        rw [Dialogue.new, (parties side).2.1]
        rfl
      speaker := fun side =>
        { isOpen := rfl
          distinct := .nil
          callers := .nil
          awaited := fun ticket _ accepted => by
            rw [Dialogue.new, (parties side).2.2] at accepted
            cases accepted
          tickets := .nil
          carried := fun _ listed => by cases listed
          refused := fun _ listed => by cases listed
          heard := fun _ listed => by cases listed
          givenUp := fun _ listed => by cases listed }
      balanced := fun side id => rfl }

end Beginning

/-- Something is done at a side that concerns no call. -/
theorem Sound.work (sound : dialogue.Sound) (side : Side) {desk : Desk τ}
    (aside : desk.standing = (dialogue.speaker side).desk.standing) :
    (dialogue.setSpeaker side { dialogue.speaker side with desk }).Sound := by
  have own := (sound.speaker side).desk aside
  refine sound.even side (sound.toOrderly.setSpeaker { dialogue.speaker side with desk } rfl own)
    (speaker_setSpeaker_other _) (ended_setSpeaker rfl) ?_
  rw [speaker_setSpeaker_self]
  refine ⟨fun id => ?_, fun _ => rfl⟩
  rw [Speaker.pending_desk aside]
  rfl

theorem Move.sound (move : Move dialogue after) (sound : dialogue.Sound)
    (reliable : after.pair.Reliable) : after.Sound := by
  cases move with
  | transit transit => exact sound.setPair reliable transit.moves
  | take side running idle => exact sound.take side idle reliable
  | conclude side => exact sound.conclude side reliable
  | start side instanceId method values callSite room =>
    exact sound.start side instanceId method values callSite room reliable
  | finish side place outcome => exact sound.finish side place outcome reliable
  | settle side place => exact sound.settle side place reliable
  | work side desk aside => exact sound.work side aside

section Moves

variable {settings : Side → PipeSettings} {speaker : Side → Speaker τ}
  (moves : Relation.ReflTransGen Move (Dialogue.new settings speaker) dialogue)
include moves

theorem reachable_of_moves : Pair.Reachable settings dialogue.pair := by
  induction moves with
  | refl => exact (Relation.ReflTransGen.refl.tail (.bind .a)).tail (.bind .b)
  | tail _ move ih =>
    rcases move.use.step with same | step
    · exact same ▸ ih
    · exact ih.tail step

theorem open_of_moves : dialogue.pair.Open := by
  induction moves with
  | refl =>
    intro side
    cases side <;> rfl
  | tail _ move ih => exact move.use.isOpen ih

/-- **After any moves a dialogue is in order**, and each pending call is held once. -/
theorem sound_of_moves (new : (Dialogue.new settings speaker).Sound) (kept : dialogue.pair.Kept) :
    dialogue.Sound := by
  induction moves with
  | refl => exact new
  | tail moves move ih =>
    have moved := moves.tail move
    have isOpen := open_of_moves moved
    exact move.sound (ih (move.kept isOpen kept)) ((reachable_of_moves moved).reliable isOpen kept)

end Moves

end Dialogue

end Courier
