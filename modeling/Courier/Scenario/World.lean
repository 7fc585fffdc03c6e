import Courier.Rpc.Desk
import Courier.Scenario.Scene
import Courier.Tasks

/-!
# Worlds

A world is an assembly of compositions in its scene.  This module says how
endpoints come into being, how what happens at one of them takes its course at
once, and how an endpoint ends that nothing refers to any more.
-/

namespace Courier.Scenario

set_option autoImplicit false

/-! ## Endpoints -/

/-- Which messages a receiver refuses, and with what reason, and at which it breaks off. -/
structure Refusals (α : Type) where
  refused : List (α × String)
  fatal : List α

namespace Refusals

variable {α : Type}

def none : Refusals α := ⟨[], []⟩

/-- What the receiver makes of a message. -/
def verdict (refusals : Refusals α) (same : α → α → Bool) (message : α) : Except String Unit :=
  if refusals.fatal.any fun other => same other message then .error receiverPanicked
  else
    match refusals.refused.find? fun entry => same entry.1 message with
    | some entry => .error entry.2
    | Option.none => .ok ()

end Refusals

/-- What a scenario knows of an endpoint beside its composition. -/
structure Station where
  name : String
  plans : List StagePlan
  blobs : Refusals Bytes
  values : Refusals Value
  /-- The proxy for the executor of the peer, once it has been asked for. -/
  executor : Option ProxyRef
  /-- Whether the scenario still refers to the endpoint. -/
  held : Bool

inductive EndpointKind where
  | blob
  | object
  | rpc
deriving DecidableEq

/-- What an endpoint is made from. -/
structure EndpointPlan where
  name : String
  kind : EndpointKind
  settings : PipeSettings
  /-- The number of its supervisor. -/
  supervisor : Nat
  plans : List StagePlan
  singletons : Singletons
  /-- The tasks that its executor serves, if it has one. -/
  tasks : Option Tasks

structure World where
  assembly : Assembly
  stations : List Station
  scene : Scene

namespace World

def new (supervisors : Nat) (services : List (ServiceObject Handler)) : World :=
  ⟨⟨[], List.replicate supervisors .new⟩, [], { Scene.new with services }⟩

def composition? (world : World) (number : Nat) : Option Composition :=
  world.assembly.compositions[number]?

def station? (world : World) (number : Nat) : Option Station := world.stations[number]?

def supervisor? (world : World) (number : Nat) : Option (Supervisor Part) := do
  world.assembly.supervisors[(← world.composition? number).supervisor]?

def channel? (world : World) (number : Nat) : Option Channel := do
  (← world.composition? number).channel

/-- The number of the endpoint of a name. -/
def number? (world : World) (name : String) : Option Nat :=
  world.stations.findIdx? fun station => station.name = name

def setComposition (world : World) (number : Nat) (composition : Composition) : World :=
  { world with assembly := world.assembly.setComposition number composition }

def setChannel (world : World) (number : Nat) (channel : Channel) : World :=
  match world.composition? number with
  | some composition => world.setComposition number { composition with channel := some channel }
  | none => world

def setStation (world : World) (number : Nat) (station : Station) : World :=
  { world with stations := world.stations.set number station }

/-- The eight bytes in the ids of the exports of a composition, which no other composition has. -/
def exportMark (number : Nat) (_ : Nat) : UInt64 := UInt64.ofNat (number + 1)

/-- An identity that no service object of a scene has. -/
def freshIdentity (scene : Scene) : Nat :=
  (scene.services.map fun service => service.reference.identity).foldl max 0 + 1

/-- Makes the executor for the tasks of an endpoint, and registers it. -/
def installTasks (plan : EndpointPlan) (scene : Scene) : EndpointPlan × Scene :=
  match plan.tasks with
  | none => (plan, scene)
  | some tasks =>
    match tasks.service Handler.compute (freshIdentity scene) with
    | .error _ => (plan, scene)
    | .ok executor =>
      ({ plan with singletons := plan.singletons.register Tasks.executorName executor.reference },
        { scene with services := scene.services ++ [executor] })

/-- The composition of an endpoint. -/
def compose (plan : EndpointPlan) (number : Nat) : Composition where
  supervisor := plan.supervisor
  pipe := .new plan.settings
  objects := match plan.kind with
    | .blob => none
    | .object => some ⟨false, false⟩
    | .rpc => some ⟨true, false⟩
  channel := match plan.kind with
    | .rpc => some (.new number (exportMark number) plan.singletons)
    | _ => none

/-- Adds an endpoint; its parts register with its supervisor, and a channel listens to its pipe. -/
def addEndpoint (world : World) (plan : EndpointPlan) : World :=
  let number := world.stations.length
  let (plan, scene) := installTasks plan world.scene
  let made := compose plan number
  let listening := made.channel.isSome
  let composition := { made with
    pipe := { made.pipe with reception := if listening then .running else .unbound } }
  { assembly :=
      { compositions := world.assembly.compositions ++ [composition]
        supervisors := world.assembly.supervisors.modify plan.supervisor fun supervisor =>
          (composition.parts number).foldl (fun found part => (found.register part).2) supervisor }
    stations := world.stations ++ [⟨plan.name, plan.plans, .none, .none, none, true⟩]
    scene := { scene with names := scene.names ++ [plan.name] } }

/-! ## What happens at once -/

/-- Works off an agenda. -/
def perform (world : World) (actions : List Action) : World :=
  let (assembly, scene) :=
    Assembly.settle Scene.surroundings world.assembly world.scene actions
  { world with assembly, scene }

/-- Changes a pipe and does what it asks for. -/
def withPipe (world : World) (number : Nat) (change : Pipe → Pipe × List PipeEffect) : World :=
  match world.composition? number with
  | none => world
  | some composition =>
    let (pipe, effects) := change composition.pipe
    (world.setComposition number { composition with pipe }).perform
      (effects.map (Action.pipe number))

/-- Changes a channel and does what it asks for. -/
def withChannel (world : World) (number : Nat)
    (change : Channel → Channel × List ChannelEffect) : World :=
  match world.channel? number with
  | none => world
  | some channel =>
    let (after, effects) := change channel
    (world.setChannel number after).perform (effects.map (Action.channel number))

/-- The sink of a stream is told something. -/
def tellSink (world : World) (sink : Sink) (event : StreamEvent) : World :=
  match sink with
  | .recorder name => { world with scene := world.scene.note name (.told event) }
  | .pipe number generation =>
    if world.scene.alive number then
      match event with
      | .bytes bytes => world.withPipe number fun pipe => pipe.accept generation bytes
      | .ended cause => world.perform [.pipe number (.lose generation cause)]
    else world

/-- Attaches a stream to an endpoint, which lets go of it if that fails. -/
def attach (world : World) (number : Nat) (stream : StreamId) (scheduler : Bool) :
    Except PipeError Unit × World :=
  match world.composition? number with
  | none => (.error .closed, world)
  | some composition =>
    match composition.pipe.install stream with
    | .error error => (.error error, { world with scene := world.scene.release stream })
    | .ok (pipe, effects, packets) =>
      let installed := (world.setComposition number { composition with pipe }).perform
        (effects.map (Action.pipe number))
      match installed.scene.bindStream stream (.pipe number pipe.generation) scheduler with
      | .error error =>
        let without := installed.withPipe number fun current =>
          (current.uninstall pipe.generation, [])
        (.error (.stream error), { without with scene := without.scene.release stream })
      | .ok scene =>
        (.ok (), { installed with scene }.perform
          [.pipe number (.write stream pipe.generation packets)])

/-! ## Objects -/

/-- The marshaling chain of an endpoint.  Its stages leave lines. -/
def chain (world : World) (number : Nat) : MarshalChain (Desk (List String)) :=
  let plans := ((world.station? number).map (·.plans)).getD []
  let further := plans.map fun plan => plan.stage fun line lines => lines ++ [line]
  if (world.channel? number).isSome then Desk.chain further else Desk.plainChain further

/-- Puts a channel back where there is one. -/
def restoreChannel (world : World) (number : Nat) (channel : Channel) : World :=
  if (world.channel? number).isSome then world.setChannel number channel else world

/-- Does a step of marshaling for an endpoint. -/
def marshal {α : Type} (world : World) (number : Nat) (step : Marshal (Desk (List String)) α) :
    Except MarshalError α × World :=
  let channel := (world.channel? number).getD (.new number (exportMark number) (.empty .byName))
  let (result, desk) := step.run ⟨channel, []⟩
  let name := world.scene.nameOf number
  let after := world.restoreChannel number desk.channel
  (result, { after with
    scene := desk.kept.foldl (fun scene line => scene.note name (.stage line)) after.scene })

/-- Sends a message for somebody who waits; the first failure is reported. -/
def sendBytes (world : World) (number : Nat) (ticket : Ticket) (bytes : Bytes) :
    Option MessageId × World :=
  match world.composition? number with
  | none => (none, { world with scene := world.scene.report ticket (.error .closed) })
  | some composition =>
    match composition.pipe.send bytes ticket with
    | (.error error, _, _) =>
      (none, { world with scene := world.scene.report ticket (.error error) })
    | (.ok id, pipe, effects) =>
      (some id, (world.setComposition number { composition with pipe }).perform
        (effects.map (Action.pipe number)))

/-- Marshals and sends an object for somebody who waits. -/
def sendObject (world : World) (number : Nat) (waiter : Waiter)
    (encode : MarshalChain (Desk (List String)) → Marshal (Desk (List String)) Bytes) :
    Ticket × Option MessageId × World :=
  let (ticket, scene) := world.scene.await waiter
  let (result, marshaled) := { world with scene }.marshal number (encode (world.chain number))
  match result with
  | .error fault =>
    (ticket, none, { marshaled with
      scene := marshaled.scene.report ticket (.error (.marshal fault.message)) })
  | .ok bytes =>
    let (id, after) := marshaled.sendBytes number ticket bytes
    (ticket, id, after)

/-- Sends a message of a channel; a task waits for what becomes of it. -/
def sendMessage (world : World) (number : Nat) (message : ChannelMessage) : World :=
  let (ticket, _, after) := world.sendObject number (.message number message.errand) fun chain =>
    message.encode chain
  { after with scene := after.scene.wake (.delivery ticket) }

/-! ## Calls -/

/-- Starts a call on an instance of the peer. -/
def startCall (world : World) (number : Nat) (instanceId : String) (method : Method)
    (values : List Value) (callSite : String) (caller : Caller) : World :=
  let (ticket, scene) := world.scene.awaitResult caller
  let waiting := { world with scene }
  match (world.channel? number).bind fun channel => channel.startCall method callSite ticket with
  | none => { waiting with scene := scene.complete ticket (.error .closed) }
  | some (id, channel) =>
    (waiting.setChannel number channel).sendMessage number
      (.call ⟨id, instanceId, method.signature, values⟩)

/-- Starts a call through a proxy.  One that cannot be started fails at once. -/
def startProxyCall (world : World) (proxy : ProxyRef) (method : Method) (values : List Value)
    (callSite : String) (caller : Caller) : Except CallError World :=
  match proxy.check method with
  | .error error => .error error
  | .ok () =>
    if world.scene.alive proxy.channel then
      .ok (world.startCall proxy.channel proxy.handle.instanceId method values callSite caller)
    else .error .closed

/-- Answers a call of the peer. -/
def answerCall (world : World) (number : Nat) (id : UInt64)
    (outcome : Except RemoteError Value) : World :=
  match world.channel? number with
  | none => world
  | some channel =>
    if channel.terminated then world
    else world.sendMessage number (.reply id outcome)

/-! ## Endpoints that end -/

/-- Whether anything refers to an endpoint: the scenario, a call that waits to be run, or a handler
that waits for a call of its own. -/
def referred (world : World) (number : Nat) : Bool :=
  ((world.station? number).any fun station => station.held) ||
    (world.scene.jobs.any fun job => job.composition = number) ||
    world.scene.results.any fun pending =>
      match pending.caller with
      | .handler job => job.composition = number
      | _ => false

/-- Ends an endpoint that nothing refers to: whoever waits for something of it is told that it is
closed, but nobody else notices. -/
def collect (world : World) (number : Nat) : World :=
  if world.referred number ∨ !world.scene.alive number then world
  else
    match world.composition? number with
    | none => world
    | some composition =>
      let scene := { world.scene with gone := number :: world.scene.gone }
      let reported := composition.pipe.exchange.outbound.foldl
        (fun scene entry => scene.report entry.ticket (.error .closed)) scene
      let completed := ((composition.channel.map (·.calls.pending)).getD []).foldl
        (fun scene call => scene.complete call.caller (.error .closed)) reported
      let released := match composition.pipe.attached with
        | some attachment => completed.release attachment.stream
        | none => completed
      { world with
        scene := released.wake (.receiver number)
        assembly := { world.assembly with
          supervisors := world.assembly.supervisors.map fun supervisor =>
            { supervisor with parts := supervisor.parts.filter fun part =>
                part.composition ≠ number } } }

/-- The scenario lets go of an endpoint. -/
def drop (world : World) (number : Nat) : World :=
  match world.station? number with
  | some station => (world.setStation number { station with held := false }).collect number
  | none => world

end World

end Courier.Scenario
