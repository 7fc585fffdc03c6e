import Courier.Proofs.Marshal.Keeping
import Courier.Proofs.Pipe.Transit

/-!
# Two channels and the pipes between them

Two channels face each other, each with its pipe.  On each side calls are started at any
time and in any number, and the calls of the peer are jobs, which end in any order with
any outcome.  A message that is sent leaves a task behind that waits for what becomes of
it, and these tasks go on in any order too.

Every step is one operation of a channel or of a pipe.  The receiver of a pipe shows a
message to the channel first and ends with it later, so that a job can have ended and
its return can have been sent before the peer hears that its call has arrived.

Neither channel is ever closed.  Streams come and go as they do between two pipes
(`Dialogue.Move`), or there is one stream for both sides that loses nothing, on which
the bytes that arrive are read without a fault, as those of packets that are not too
long are (`Dialogue.Step`).
-/

namespace Courier

set_option autoImplicit false

/-- A message on its errand, for which a task waits: the ticket under which its pipe reports of it,
or why it could not be sent. -/
structure Dispatch where
  errand : Errand
  sent : Except PipeError Ticket

/-- What has become of a message, as soon as it is known. -/
def Dispatch.outcome? (dispatch : Dispatch) (reports : List (Ticket × Outcome)) : Option Outcome :=
  match dispatch.sent with
  | .error error => some (.error error)
  | .ok ticket => (reports.find? fun report => report.1 = ticket).map (·.2)

/-! ## Speakers -/

/-- A channel, and what goes on around it. -/
structure Speaker (τ : Type) where
  desk : Desk τ
  /-- The stages of the chain beside that of the channel. -/
  further : List (Stage τ)
  /-- The messages that tasks wait for. -/
  dispatches : List Dispatch
  /-- The calls of the peer that have not ended. -/
  jobs : List CallRequest
  /-- How the receiver will end with the message that it is at. -/
  verdict : Option Receipt
  /-- How many calls have been started.  Each caller has the number of its call for a ticket. -/
  started : Nat
  /-- The callers that have been told a result. -/
  completed : List (Ticket × CallResult)
  /-- The returns that have been given up. -/
  givenUp : List (UInt64 × PipeError)

namespace Speaker

variable {τ : Type}

/-- A channel at which nothing has happened. -/
def new (channel : Channel) (kept : τ) (further : List (Stage τ)) : Speaker τ :=
  ⟨⟨channel, kept⟩, further, [], [], none, 0, [], []⟩

/-- Does one thing that the channel asks for. -/
def perform (speaker : Speaker τ) : ChannelEffect → Speaker τ
  | .run request => { speaker with jobs := speaker.jobs ++ [request] }
  | .complete caller result =>
    { speaker with completed := speaker.completed ++ [(caller, result)] }

/-- Changes the channel and does what it asks for. -/
def change (speaker : Speaker τ) (changed : Channel × List ChannelEffect) : Speaker τ :=
  changed.2.foldl perform { speaker with desk := { speaker.desk with channel := changed.1 } }

/-- The task that waits for the message of a place is over. -/
def dismiss (speaker : Speaker τ) (place : Nat) : Speaker τ :=
  { speaker with dispatches := speaker.dispatches.eraseIdx place }

/-- The job of a place is over. -/
def finish (speaker : Speaker τ) (place : Nat) : Speaker τ :=
  { speaker with jobs := speaker.jobs.eraseIdx place }

/-- A message is shown to the channel. -/
def hear (speaker : Speaker τ) (bytes : Bytes) : Speaker τ :=
  match (ChannelMessage.decode (Desk.chain speaker.further) bytes).run speaker.desk with
  | (.error fault, desk) => { speaker with desk, verdict := some (.refused fault.message) }
  | (.ok message, desk) =>
    { speaker with desk, verdict := some .accepted }.change (desk.channel.receive message)

end Speaker

/-! ## Dialogues -/

structure Dialogue (τ : Type) where
  pair : Pair
  speaker : Side → Speaker τ

/-- Hands the bytes of a message to a pipe, if there are any. -/
def Pair.submit (pair : Pair) (side : Side) :
    Except MarshalError Bytes → Except PipeError Ticket × Pair
  | .error fault => (.error (.marshal fault.message), pair)
  | .ok bytes =>
    let ticket := (pair.party side).accepted.length
    (((pair.party side).pipe.send bytes ticket).1.map fun _ => ticket, pair.send side bytes)

namespace Dialogue

variable {τ : Type}

def setPair (dialogue : Dialogue τ) (pair : Pair) : Dialogue τ := { dialogue with pair }

def setSpeaker (dialogue : Dialogue τ) (side : Side) (speaker : Speaker τ) : Dialogue τ :=
  { dialogue with speaker := Function.update dialogue.speaker side speaker }

/-- Two new pipes whose messages go to two new channels. -/
def new (settings : Side → PipeSettings) (speaker : Side → Speaker τ) : Dialogue τ :=
  ⟨((Pair.new settings).bind .a).bind .b, speaker⟩

/-! ### The operations of channels -/

/-- Sends a message; a task waits for what becomes of it. -/
def post (dialogue : Dialogue τ) (side : Side) (message : ChannelMessage) : Dialogue τ :=
  let speaker := dialogue.speaker side
  let (written, desk) := (message.encode (Desk.chain speaker.further)).run speaker.desk
  let (sent, pair) := dialogue.pair.submit side written
  (dialogue.setPair pair).setSpeaker side
    { speaker with desk, dispatches := speaker.dispatches ++ [⟨message.errand, sent⟩] }

/-- A call is started. -/
def start (dialogue : Dialogue τ) (side : Side) (instanceId : String) (method : Method)
    (values : List Value) (callSite : String) : Dialogue τ :=
  let speaker := dialogue.speaker side
  let caller := speaker.started
  match speaker.desk.channel.startCall method callSite caller with
  | none => dialogue.setSpeaker side
      { speaker with
        started := caller + 1
        completed := speaker.completed ++ [(caller, .error .closed)] }
  | some (id, channel) =>
    (dialogue.setSpeaker side
      { speaker with
        started := caller + 1
        desk := { speaker.desk with channel } }).post side
      (.call ⟨id, instanceId, method.signature, values⟩)

/-- A call of the peer is answered. -/
def answer (dialogue : Dialogue τ) (side : Side) (id : UInt64)
    (outcome : Except RemoteError Value) : Dialogue τ :=
  if (dialogue.speaker side).desk.channel.terminated then dialogue
  else dialogue.post side (.reply id outcome)

/-- The job of a place ends. -/
def finish (dialogue : Dialogue τ) (side : Side) (place : Nat)
    (outcome : Except RemoteError Value) : Dialogue τ :=
  let speaker := dialogue.speaker side
  match speaker.jobs[place]? with
  | none => dialogue
  | some job =>
    (dialogue.setSpeaker side (speaker.finish place)).answer side job.callId outcome

/-- The channel does what has to follow when it is known what has become of a message. -/
def follow (dialogue : Dialogue τ) (side : Side) : Channel.Aftermath → Dialogue τ
  | .nothing => dialogue
  | .fail id error =>
    let speaker := dialogue.speaker side
    dialogue.setSpeaker side (speaker.change (speaker.desk.channel.callUndelivered id error))
  | .replace id reason => dialogue.answer side id (Channel.unportableOutcome reason)
  | .giveUp id error =>
    let speaker := dialogue.speaker side
    dialogue.setSpeaker side { speaker with givenUp := speaker.givenUp ++ [(id, error)] }

/-- The task that waits for the message of a place goes on, if it is known what has become of it. -/
def settle (dialogue : Dialogue τ) (side : Side) (place : Nat) : Dialogue τ :=
  let speaker := dialogue.speaker side
  match speaker.dispatches[place]? with
  | none => dialogue
  | some dispatch =>
    match dispatch.outcome? (dialogue.pair.party side).reports with
    | none => dialogue
    | some outcome =>
      (dialogue.setSpeaker side (speaker.dismiss place)).follow side
        (Channel.aftermath dispatch.errand outcome)

/-! ### The operations of pipes -/

/-- The receiver takes the next message that waits and shows it to the channel. -/
def take (dialogue : Dialogue τ) (side : Side) : Dialogue τ :=
  match (dialogue.pair.party side).pipe.waiting with
  | [] => dialogue
  | (_, body) :: _ =>
    (dialogue.setPair (dialogue.pair.hand side)).setSpeaker side
      ((dialogue.speaker side).hear body)

/-- The receiver ends with the message that it is at. -/
def conclude (dialogue : Dialogue τ) (side : Side) : Dialogue τ :=
  let speaker := dialogue.speaker side
  match speaker.verdict with
  | none => dialogue
  | some receipt =>
    (dialogue.setPair (dialogue.pair.conclude side receipt)).setSpeaker side
      { speaker with verdict := none }

/-! ## Steps and runs -/

/-- One step of two channels and the pipes between them, of which anything may happen to the
streams.  A call can only be started while there is an id that no pending call has. -/
inductive Move (dialogue : Dialogue τ) : Dialogue τ → Prop where
  | transit {after : Pair} (transit : dialogue.pair.Transit after) :
      Move dialogue (dialogue.setPair after)
  | take (side : Side) (running : (dialogue.pair.party side).pipe.reception = .running)
      (idle : (dialogue.pair.party side).busy = none) : Move dialogue (dialogue.take side)
  | conclude (side : Side) : Move dialogue (dialogue.conclude side)
  | start (side : Side) (instanceId : String) (method : Method) (values : List Value)
      (callSite : String)
      (room : (dialogue.speaker side).desk.channel.calls.busyIds.length < UInt64.size) :
      Move dialogue (dialogue.start side instanceId method values callSite)
  | finish (side : Side) (place : Nat) (outcome : Except RemoteError Value) :
      Move dialogue (dialogue.finish side place outcome)
  | settle (side : Side) (place : Nat) : Move dialogue (dialogue.settle side place)
  /-- Something is done that concerns no call, such as the export of an object. -/
  | work (side : Side) (desk : Desk τ)
      (aside : desk.standing = (dialogue.speaker side).desk.standing) :
      Move dialogue (dialogue.setSpeaker side { dialogue.speaker side with desk })

/-- One step of two channels and the pipes between them, over one stream that loses nothing. -/
inductive Step (stream : StreamId) (dialogue : Dialogue τ) : Dialogue τ → Prop where
  | attach (side : Side) (first : (dialogue.pair.party side).streams = []) :
      Step stream dialogue (dialogue.setPair (dialogue.pair.attach side stream))
  | arrive (side : Side) (bytes : Bytes) (packets rest : List Packet)
      (attached : (dialogue.pair.party side).pipe.stream? = some stream)
      (inFlight : (dialogue.pair.lane stream side.other).inFlight = packets ++ rest)
      (read : (dialogue.pair.party side).reading bytes = packets)
      (faultless : ((dialogue.pair.party side).pipe.reader.push bytes).drain.2.1 = none) :
      Step stream dialogue (dialogue.setPair
        (dialogue.pair.arrive side (dialogue.pair.party side).pipe.generation stream bytes rest))
  | take (side : Side) (running : (dialogue.pair.party side).pipe.reception = .running)
      (idle : (dialogue.pair.party side).busy = none) : Step stream dialogue (dialogue.take side)
  | conclude (side : Side) : Step stream dialogue (dialogue.conclude side)
  | start (side : Side) (instanceId : String) (method : Method) (values : List Value)
      (callSite : String)
      (room : (dialogue.speaker side).desk.channel.calls.busyIds.length < UInt64.size) :
      Step stream dialogue (dialogue.start side instanceId method values callSite)
  | finish (side : Side) (place : Nat) (outcome : Except RemoteError Value) :
      Step stream dialogue (dialogue.finish side place outcome)
  | settle (side : Side) (place : Nat) : Step stream dialogue (dialogue.settle side place)
  /-- Something is done that concerns no call, such as the export of an object. -/
  | work (side : Side) (desk : Desk τ)
      (aside : desk.standing = (dialogue.speaker side).desk.standing) :
      Step stream dialogue (dialogue.setSpeaker side { dialogue.speaker side with desk })

/-- Two channels before anything has happened, and the stream that will join them. -/
structure Opening (τ : Type) where
  settings : Side → PipeSettings
  number : Side → Nat
  mark : Side → Nat → UInt64
  singletons : Side → Singletons
  kept : Side → τ
  further : Side → List (Stage τ)
  stream : StreamId

def Opening.dialogue (opening : Opening τ) : Dialogue τ :=
  .new opening.settings fun side =>
    .new (.new (opening.number side) (opening.mark side) (opening.singletons side))
      (opening.kept side) (opening.further side)

/-- The dialogues that any steps in any order lead to. -/
def Reachable (opening : Opening τ) : Dialogue τ → Prop :=
  Relation.ReflTransGen (Step opening.stream) opening.dialogue

end Dialogue

end Courier
