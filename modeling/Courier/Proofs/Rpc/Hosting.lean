import Courier.Proofs.Rpc.Changes
import Courier.Proofs.Rpc.Registries
import Courier.Rpc.Service

/-!
# Dialogues of channels that host objects

In a dialogue the jobs of a channel end anyhow.  Here they end as the calls of the
objects do that the channels host: the object is looked up that a call names, the
call is dispatched to its method, and the peer is answered with what comes of it.
How a handler ends is up to the application, and while it runs anything else may
happen at both sides and on the streams between them: streams are lost, and others
are attached in their place.  No stages stand beside those of the channels.

Beside the dialogue a journal is kept at each side: the calls it has ordered and the
replies it has given, each with the desk at which it was marshaled, the desks at
which it has heard the messages of the peer, and the calls of the peer it has run.
The messages of a side are numbered by the tickets that its pipe gives out.
-/

namespace Courier

set_option autoImplicit false

variable {τ η : Type}

/-! ## What is written down -/

/-- A call as it was ordered. -/
structure Order (τ : Type) where
  instanceId : String
  method : Method
  values : List Value
  /-- Where in the caller's program the call was made. -/
  callSite : String
  /-- The desk at which the arguments were marshaled. -/
  desk : Desk τ
  /-- The number of the message, or why it could not be sent. -/
  sent : Except PipeError Ticket

/-- A reply as it was given. -/
structure Reply (τ : Type) where
  callId : UInt64
  outcome : Except RemoteError Value
  /-- The desk at which the result was marshaled. -/
  desk : Desk τ
  /-- The number of the message, or why it could not be sent. -/
  sent : Except PipeError Ticket

/-- A call of the peer that has been run. -/
structure Run (τ : Type) where
  /-- The number of the message that brought the call. -/
  message : Ticket
  request : CallRequest
  /-- The desk at which the object was looked up. -/
  desk : Desk τ

namespace Run

/-- How the call of the object ends that the channel finds under the id, if it finds one.  `ending`
is how the handler ends, if one is run. -/
def ending? (objects : Nat → ServiceObject η) (run : Run τ) (ending : Ending) : Option Ending :=
  (run.desk.channel.lookup? run.request.instanceId).map fun found =>
    ((objects found.identity).call (fun _ _ _ => (ending, ())) run.request.signature
      run.request.arguments ()).1

/-- What the peer is answered when the call of the object has ended, if there is an object. -/
def outcome (objects : Nat → ServiceObject η) (run : Run τ) (ending : Option Ending) :
    Except RemoteError Value :=
  match run.desk.channel.lookup? run.request.instanceId, ending with
  | some found, some ending =>
    ending.outcome (objects found.identity).reference.label run.request.signature
  | _, _ => noInstanceOutcome run.request.instanceId

end Run

/-- What is known of a job: the number of its message, the call, and the desk at which the object
was looked up if it is being run. -/
structure Post (τ : Type) where
  message : Ticket
  request : CallRequest
  desk : Option (Desk τ)

/-- The run of a job that is being run. -/
def Post.run? (post : Post τ) : Option (Run τ) :=
  post.desk.map fun desk => ⟨post.message, post.request, desk⟩

/-- What one side has written down. -/
structure Journal (τ : Type) where
  /-- The calls, each in the place of its caller. -/
  orders : List (Order τ)
  replies : List (Reply τ)
  /-- The desks at which the messages of the peer have been shown to the channel. -/
  heard : List (Ticket × Desk τ)
  /-- What is known of the jobs, in their order. -/
  posts : List (Post τ)
  /-- The calls of the peer that have been run. -/
  runs : List (Run τ)
  /-- Those of them that have ended, and how the call of the object ended, if there was one. -/
  endings : List (Run τ × Option Ending)

namespace Journal

def blank : Journal τ := ⟨[], [], [], [], [], []⟩

end Journal

/-- An object is registered by name. -/
def Desk.register (desk : Desk τ) (name : String) (service : ServiceRef) : Desk τ :=
  { desk with channel :=
      { desk.channel with singletons := desk.channel.singletons.register name service } }

/-! ## Hosting -/

structure Hosting (τ : Type) where
  dialogue : Dialogue τ
  journal : Side → Journal τ

namespace Hosting

/-- Writes something down. -/
def note (hosting : Hosting τ) (side : Side) (entry : Journal τ → Journal τ) : Hosting τ :=
  { hosting with
    journal := Function.update hosting.journal side (entry (hosting.journal side)) }

@[simp] theorem journal_note_self (hosting : Hosting τ) (side : Side)
    (entry : Journal τ → Journal τ) :
    (hosting.note side entry).journal side = entry (hosting.journal side) := by
  simp [note]

@[simp] theorem journal_note_other (hosting : Hosting τ) (side : Side)
    (entry : Journal τ → Journal τ) :
    (hosting.note side entry).journal side.other = hosting.journal side.other := by
  simp [note, Side.other_ne]

/-- Changes nothing but the dialogue. -/
def setDialogue (hosting : Hosting τ) (dialogue : Dialogue τ) : Hosting τ :=
  { hosting with dialogue }

@[simp] theorem journal_setDialogue (hosting : Hosting τ) (dialogue : Dialogue τ) :
    (hosting.setDialogue dialogue).journal = hosting.journal := rfl

/-- A call is started. -/
def start (hosting : Hosting τ) (side : Side) (instanceId : String) (method : Method)
    (values : List Value) (callSite : String) : Hosting τ :=
  let speaker := hosting.dialogue.speaker side
  let after := hosting.setDialogue
    (hosting.dialogue.start side instanceId method values callSite)
  match speaker.desk.channel.startCall method callSite speaker.started with
  | none => after.note side fun journal => { journal with
      orders := journal.orders ++
        [⟨instanceId, method, values, callSite, speaker.desk, .error .closed⟩] }
  | some (id, channel) =>
    let desk := { speaker.desk with channel }
    let sent := (hosting.dialogue.setSpeaker side
      { speaker with started := speaker.started + 1, desk }).sending side
        (.call ⟨id, instanceId, method.signature, values⟩)
    after.note side fun journal => { journal with
      orders := journal.orders ++ [⟨instanceId, method, values, callSite, desk, sent⟩] }

/-- A call of the peer is answered. -/
def answer (hosting : Hosting τ) (side : Side) (id : UInt64)
    (outcome : Except RemoteError Value) : Hosting τ :=
  let desk := (hosting.dialogue.speaker side).desk
  if desk.channel.terminated then hosting
  else
    let sent := hosting.dialogue.sending side (.reply id outcome)
    (hosting.setDialogue (hosting.dialogue.answer side id outcome)).note side fun journal =>
      { journal with replies := journal.replies ++ [⟨id, outcome, desk, sent⟩] }

/-- The call that has been read, if it is one. -/
def called? : Except MarshalError ChannelMessage → Option CallRequest
  | .ok (.call request) => some request
  | _ => none

/-- The receiver takes the next message that waits and shows it to the channel. -/
def take (hosting : Hosting τ) (side : Side) : Hosting τ :=
  let speaker := hosting.dialogue.speaker side
  let party := hosting.dialogue.pair.party side
  match party.pipe.waiting with
  | [] => hosting
  | (_, body) :: _ =>
    let number := party.handed.length
    let read := ((ChannelMessage.decode (Desk.chain speaker.further) body).run speaker.desk).1
    (hosting.setDialogue (hosting.dialogue.take side)).note side fun journal => { journal with
      heard := journal.heard ++ [(number, speaker.desk)]
      posts := journal.posts ++ (called? read).toList.map fun request => ⟨number, request, none⟩ }

/-- The job of a place is run, if it is not being run yet: its object is looked up, and a handler of
the object may begin. -/
def run (hosting : Hosting τ) (side : Side) (place : Nat) : Hosting τ :=
  let desk := (hosting.dialogue.speaker side).desk
  match (hosting.journal side).posts[place]? with
  | some ⟨message, request, none⟩ =>
    hosting.note side fun journal => { journal with
      posts := journal.posts.set place ⟨message, request, some desk⟩
      runs := journal.runs ++ [⟨message, request, desk⟩] }
  | _ => hosting

/-- The run of the job of a place, if it is being run. -/
def running? (hosting : Hosting τ) (side : Side) (place : Nat) : Option (Run τ) :=
  match (hosting.dialogue.speaker side).jobs[place]?, (hosting.journal side).posts[place]? with
  | some request, some ⟨message, _, some desk⟩ => some ⟨message, request, desk⟩
  | _, _ => none

/-- The job of a place ends, if it is being run.  `ending` is how the handler ended, if there was
one. -/
def finish (objects : Nat → ServiceObject η) (hosting : Hosting τ) (side : Side) (place : Nat)
    (ending : Ending) : Hosting τ :=
  match hosting.running? side place with
  | none => hosting
  | some run =>
    let after := hosting.setDialogue
      (hosting.dialogue.setSpeaker side ((hosting.dialogue.speaker side).finish place))
    let ended := after.note side fun journal => { journal with
      posts := journal.posts.eraseIdx place
      endings := journal.endings ++ [(run, run.ending? objects ending)] }
    ended.answer side run.request.callId (run.outcome objects (run.ending? objects ending))

/-- The channel does what has to follow when it is known what has become of a message. -/
def follow (hosting : Hosting τ) (side : Side) : Channel.Aftermath → Hosting τ
  | .replace id reason => hosting.answer side id (Channel.unportableOutcome reason)
  | other => hosting.setDialogue (hosting.dialogue.follow side other)

/-- The task that waits for the message of a place goes on, if it is known what has become of it. -/
def settle (hosting : Hosting τ) (side : Side) (place : Nat) : Hosting τ :=
  let speaker := hosting.dialogue.speaker side
  match speaker.dispatches[place]? with
  | none => hosting
  | some dispatch =>
    match dispatch.outcome? (hosting.dialogue.pair.party side).reports with
    | none => hosting
    | some outcome =>
      (hosting.setDialogue (hosting.dialogue.setSpeaker side (speaker.dismiss place))).follow side
        (Channel.aftermath dispatch.errand outcome)

/-! ## Steps and runs -/

/-- One step of two channels that host objects.  It is a move of their dialogue, or a job is run.
`handlers` says how the handlers of a side may end on arguments. -/
inductive Step (objects : Side → Nat → ServiceObject η)
    (handlers : Side → η → Arguments → Ending → Prop) (hosting : Hosting τ) : Hosting τ → Prop where
  /-- Something happens on the streams. -/
  | transit {after : Pair} (transit : hosting.dialogue.pair.Transit after) :
      Step objects handlers hosting (hosting.setDialogue (hosting.dialogue.setPair after))
  | take (side : Side) (running : (hosting.dialogue.pair.party side).pipe.reception = .running)
      (idle : (hosting.dialogue.pair.party side).busy = none) :
      Step objects handlers hosting (hosting.take side)
  | conclude (side : Side) :
      Step objects handlers hosting (hosting.setDialogue (hosting.dialogue.conclude side))
  | start (side : Side) (instanceId : String) (method : Method) (values : List Value)
      (callSite : String)
      (room : (hosting.dialogue.speaker side).desk.channel.calls.busyIds.length < UInt64.size) :
      Step objects handlers hosting (hosting.start side instanceId method values callSite)
  | run (side : Side) (place : Nat) : Step objects handlers hosting (hosting.run side place)
  /-- The handler has ended, to which the call was dispatched. -/
  | finish (side : Side) (place : Nat) (ending : Ending)
      (handled : ∀ run found handler arguments, hosting.running? side place = some run →
        run.desk.channel.lookup? run.request.instanceId = some found →
          (objects side found.identity).dispatch run.request.signature run.request.arguments =
            .ok (handler, arguments) → handlers side handler arguments ending) :
      Step objects handlers hosting (hosting.finish (objects side) side place ending)
  | settle (side : Side) (place : Nat) : Step objects handlers hosting (hosting.settle side place)
  /-- Something is done that concerns no call, such as the export of an object. -/
  | work (side : Side) (desk : Desk τ)
      (aside : desk.standing = (hosting.dialogue.speaker side).desk.standing)
      (grows : (hosting.dialogue.speaker side).desk.channel.Grows desk.channel) :
      Step objects handlers hosting (hosting.setDialogue (hosting.dialogue.setSpeaker side
        { hosting.dialogue.speaker side with desk }))
  /-- An object is registered by name, perhaps in place of another. -/
  | register (side : Side) (name : String) (service : ServiceRef) :
      Step objects handlers hosting (hosting.setDialogue (hosting.dialogue.setSpeaker side
        { hosting.dialogue.speaker side with
          desk := (hosting.dialogue.speaker side).desk.register name service }))

/-- Two new channels without stages of the application, and the objects that are registered by name
at each. -/
structure Opening (τ : Type) where
  settings : Side → PipeSettings
  number : Side → Nat
  mark : Side → Nat → UInt64
  singletons : Side → List (String × ServiceRef)
  order : Side → VisitOrder
  kept : Side → τ

def Opening.hosting (opening : Opening τ) : Hosting τ :=
  ⟨.new opening.settings fun side =>
      .new (.new (opening.number side) (opening.mark side)
        (.ofList (opening.order side) (opening.singletons side))) (opening.kept side) [],
    fun _ => .blank⟩

/-- What any steps in any order lead to. -/
def Reachable (objects : Side → Nat → ServiceObject η)
    (handlers : Side → η → Arguments → Ending → Prop) (opening : Opening τ) : Hosting τ → Prop :=
  Relation.ReflTransGen (Step objects handlers) opening.hosting

/-! ### Dialogues of hosts -/

variable {hosting after : Hosting τ} {objects : Side → Nat → ServiceObject η}
  {handlers : Side → η → Arguments → Ending → Prop}

theorem dialogue_start (hosting : Hosting τ) (side : Side) (instanceId : String) (method : Method)
    (values : List Value) (callSite : String) :
    (hosting.start side instanceId method values callSite).dialogue =
      hosting.dialogue.start side instanceId method values callSite := by
  unfold start
  simp only
  split <;> rfl

theorem dialogue_answer (hosting : Hosting τ) (side : Side) (id : UInt64)
    (outcome : Except RemoteError Value) :
    (hosting.answer side id outcome).dialogue = hosting.dialogue.answer side id outcome := by
  unfold answer Dialogue.answer
  simp only
  split <;> rfl

theorem dialogue_take (hosting : Hosting τ) (side : Side) :
    (hosting.take side).dialogue = hosting.dialogue.take side := by
  unfold take
  simp only
  split
  · rename_i waiting
    simp only [Dialogue.take, waiting]
  · rfl

theorem dialogue_run (hosting : Hosting τ) (side : Side) (place : Nat) :
    (hosting.run side place).dialogue = hosting.dialogue := by
  unfold run
  simp only
  split <;> rfl

theorem dialogue_follow (hosting : Hosting τ) (side : Side) (aftermath : Channel.Aftermath) :
    (hosting.follow side aftermath).dialogue = hosting.dialogue.follow side aftermath := by
  cases aftermath with
  | replace id reason => exact hosting.dialogue_answer side id _
  | _ => rfl

theorem dialogue_settle (hosting : Hosting τ) (side : Side) (place : Nat) :
    (hosting.settle side place).dialogue = hosting.dialogue.settle side place := by
  unfold settle Dialogue.settle
  cases found : (hosting.dialogue.speaker side).dispatches[place]? with
  | none => simp only [found]
  | some dispatch =>
    cases known : dispatch.outcome? (hosting.dialogue.pair.party side).reports with
    | none => simp only [found, known]
    | some outcome =>
      simp only [found, known]
      exact dialogue_follow ..

theorem running?_eq_some {side : Side} {place : Nat} {run : Run τ}
    (running : hosting.running? side place = some run) :
    (hosting.dialogue.speaker side).jobs[place]? = some run.request ∧ ∃ request,
      (hosting.journal side).posts[place]? = some ⟨run.message, request, some run.desk⟩ := by
  unfold running? at running
  split at running
  · rename_i job found
    obtain rfl := Option.some.inj running
    exact ⟨job, _, found⟩
  · cases running

/-- A job that ends does so with some outcome, unless it is not being run. -/
theorem dialogue_finish (objects : Nat → ServiceObject η) (hosting : Hosting τ) (side : Side)
    (place : Nat) (ending : Ending) :
    hosting.finish objects side place ending = hosting ∨ ∃ outcome,
      (hosting.finish objects side place ending).dialogue =
        hosting.dialogue.finish side place outcome := by
  unfold finish
  cases running : hosting.running? side place with
  | none => exact .inl rfl
  | some run =>
    refine .inr ⟨run.outcome objects (run.ending? objects ending), ?_⟩
    simp only [dialogue_answer, Dialogue.finish, (running?_eq_some running).1]
    rfl

theorem Step.move (step : Step objects handlers hosting after) :
    after.dialogue = hosting.dialogue ∨ Dialogue.Move hosting.dialogue after.dialogue := by
  cases step with
  | transit transit => exact .inr (.transit transit)
  | take side running idle =>
    rw [dialogue_take]
    exact .inr (.take side running idle)
  | conclude side => exact .inr (.conclude side)
  | start side instanceId method values callSite room =>
    rw [dialogue_start]
    exact .inr (.start side instanceId method values callSite room)
  | run side place => exact .inl (hosting.dialogue_run side place)
  | finish side place ending =>
    rcases dialogue_finish (objects side) hosting side place ending with same | ⟨outcome, finished⟩
    · exact .inl (congrArg Hosting.dialogue same)
    · rw [finished]
      exact .inr (.finish side place outcome)
  | settle side place =>
    rw [dialogue_settle]
    exact .inr (.settle side place)
  | work side desk aside => exact .inr (.work side desk aside)
  | register side => exact .inr (.work side _ rfl)

/-! ### What holds of the dialogue -/

section Dialogues

variable {opening : Opening τ} (reachable : Reachable objects handlers opening hosting)
include reachable

theorem Reachable.moves :
    Relation.ReflTransGen Dialogue.Move opening.hosting.dialogue hosting.dialogue := by
  induction reachable with
  | refl => exact .refl
  | tail _ step ih =>
    rcases step.move with same | move
    · exact same ▸ ih
    · exact ih.tail move

theorem Reachable.sound (kept : hosting.dialogue.pair.Kept) : hosting.dialogue.Sound :=
  Dialogue.sound_of_moves reachable.moves (.new _ _ _ _ _ _) kept

end Dialogues

/-- What was lost stays lost. -/
theorem Reachable.kept_of_step {opening : Opening τ}
    (reachable : Reachable objects handlers opening hosting)
    (step : Step objects handlers hosting after) (kept : after.dialogue.pair.Kept) :
    hosting.dialogue.pair.Kept := by
  rcases step.move with same | move
  · exact same ▸ kept
  · exact move.kept (Dialogue.open_of_moves (reachable.moves.tail move)) kept

end Hosting

end Courier
