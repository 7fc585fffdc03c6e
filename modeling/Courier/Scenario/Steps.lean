import Courier.Scenario.Links

/-!
# Steps

What a scenario can do to a world.  A step takes effect at once; the tasks that
it makes ready run when the world does.
-/

namespace Courier.Scenario

set_option autoImplicit false

/-- What can be seen of a channel: the calls that wait, and the objects that are exported. -/
structure ChannelView where
  pending : Nat
  exported : Nat
  terminated : Bool

/-- What can be seen of an endpoint. -/
structure EndpointView where
  name : String
  inFlight : Nat
  inboundPending : Nat
  closed : Bool
  terminated : Bool
  tornDown : Bool
  channel : Option ChannelView

namespace World

def setScene (world : World) (scene : Scene) : World := { world with scene }

/-! ## Pipes and objects -/

/-- Gives the pipe of an endpoint its receiver. -/
def bindPipe (world : World) (number : Nat) : Except PipeError World :=
  match world.composition? number with
  | none => .error .closed
  | some composition => do
    let pipe ← composition.pipe.bind
    return (world.setComposition number { composition with pipe }).wake (.receiver number)

/-- Gives an endpoint a receiver that refuses some messages.  The receiver of objects is put down
before the pipe is asked. -/
def bind (world : World) (number : Nat) (blobs : Refusals Bytes) (values : Refusals Value) :
    Except PipeError Unit × World :=
  match world.composition? number, world.station? number with
  | some composition, some station =>
    let noted := world.setStation number { station with blobs, values }
    let answer (before : World) : Except PipeError World → Except PipeError Unit × World
      | .ok after => (.ok (), after)
      | .error error => (.error error, before)
    match composition.objects with
    | none => answer world (noted.bindPipe number)
    | some layer =>
      if layer.bound then (.error .alreadyBound, world)
      else
        let known := noted.setComposition number
          { composition with objects := some { layer with bound := true } }
        answer known (known.bindPipe number)
  | _, _ => (.error .closed, world)

/-- Sends a message for a labelled sender. -/
def sendBlob (world : World) (number : Nat) (label : String) (blob : Bytes) :
    Option MessageId × World :=
  let (ticket, scene) := world.scene.await (.sender label)
  (world.setScene scene).sendBytes number ticket blob

/-- Sends an object for a labelled sender. -/
def sendValue (world : World) (number : Nat) (label : String) (value : Value) :
    Option MessageId × World :=
  let (_, id, after) := world.sendObject number (.sender label) fun chain => chain.encodeValue value
  (id, after)

/-! ## Streams -/

/-- Attaches a new scripted stream to an endpoint. -/
def attachScripted (world : World) (number : Nat) (name : String) (failsBind : Bool)
    (failsAfter : Option Nat) : Except PipeError Unit × World :=
  let (stream, scene) := world.scene.addStream
    (.scripted ⟨name, world.scene.nameOf number, failsBind, failsAfter, 0, none⟩)
  (world.setScene scene).attach number stream true

/-- A scripted stream delivers buffers.  Gives nothing if nobody is bound to it. -/
def feed (world : World) (name : String) (buffers : List Bytes) : Option World :=
  (world.scene.scriptedSink? name).map fun sink =>
    buffers.foldl (fun world buffer => world.tellSink sink (.bytes buffer)) world

/-- A scripted stream ends or breaks. -/
def endStream (world : World) (name : String) (cause : Option StreamError) : Option World :=
  (world.scene.scriptedSink? name).map fun sink => world.tellSink sink (.ended cause)

/-- Attaches the two ends of a new memory link, or of two byte streams joined by conduits of a
capacity. -/
def connect (world : World) (first second : Nat) (joint : Option (Nat × Framing))
    (scheduler : Bool) : Except PipeError Unit × Except PipeError Unit × World :=
  let (left, right, scene) := match joint with
    | none => world.scene.addCable
    | some (capacity, framing) => world.scene.addDuplexPair capacity framing
  let (answer, attached) := (world.setScene scene).attach first left scheduler
  let (other, both) := attached.attach second right scheduler
  (answer, other, both)

/-- Severs a memory link. -/
def sever (world : World) (number : Nat) : World := world.setScene (world.scene.severCable number)

/-- The stream that is one end of a memory link. -/
def endOf? (world : World) (number : Nat) (side : Side) : Option StreamId :=
  world.scene.streams.findIdx? fun stream =>
    match stream with
    | .cable other otherSide => other = number && otherSide = side
    | _ => false

/-- Closes one end of a memory link. -/
def closeLink (world : World) (number : Nat) (side : Side) : World :=
  match world.endOf? number side with
  | some stream => world.setScene (world.scene.shut stream)
  | none => world

/-! ## Closing -/

/-- Closes an endpoint by its topmost part. -/
def close (world : World) (number : Nat) : World :=
  match world.composition? number with
  | none => world
  | some composition =>
    let layer := if composition.channel.isSome then Layer.channel
      else if composition.objects.isSome then .objects else .pipe
    world.perform [.close ⟨number, layer⟩]

/-- Closes the pipe of an endpoint. -/
def closePipe (world : World) (number : Nat) : World := world.perform [.close ⟨number, .pipe⟩]

/-- Reports to the supervisor of an endpoint. -/
def report (world : World) (number : Nat) (severity : Severity) : World :=
  world.perform [.pipe number (.raise severity)]

/-! ## Jobs -/

/-- Holds calls of the peer back, or lets them run. -/
def hold (world : World) (held : Bool) : World := world.setScene { world.scene with held }

/-- Turns the line of calls around. -/
def reverseJobs (world : World) : World :=
  world.setScene { world.scene with jobs := world.scene.jobs.reverse }

/-! ## Channels -/

/-- Makes an object callable by the peer of an endpoint. -/
def exportObject (world : World) (number : Nat) (interfaces : List String)
    (service : ServiceRef) : Except CallError RemoteHandle × World :=
  match world.channel? number with
  | none => (.error .closed, world)
  | some channel =>
    let (answer, after) := channel.exportObject interfaces service
    (answer, world.setChannel number after)

def registerSingleton (world : World) (number : Nat) (name : String) (service : ServiceRef) :
    World :=
  match world.channel? number with
  | none => world
  | some channel => world.setChannel number
      { channel with singletons := channel.singletons.register name service }

/-- The instance id of the export of an order, counted from zero, of an endpoint. -/
def exportId (world : World) (number order : Nat) : String :=
  ((world.channel? number).map fun channel => channel.exports.instanceId order).getD ""

/-- The proxy of an endpoint for a handle. -/
def proxyFor (world : World) (number : Nat) (handle : RemoteHandle) : ProxyRef × World :=
  match world.channel? number with
  | none => (⟨number, 0, handle⟩, world)
  | some channel =>
    let (proxy, after) := channel.proxy handle
    (proxy, world.setChannel number after)

/-- The proxy for the executor of the peer; it is made once. -/
def executor (world : World) (number : Nat) : ProxyRef × World :=
  match world.station? number with
  | some station =>
    match station.executor with
    | some proxy => (proxy, world)
    | none =>
      let (proxy, after) := world.proxyFor number
        (.singleton Tasks.executorName [Tasks.executorInterfaceName])
      (proxy, after.setStation number { station with executor := some proxy })
  | none => world.proxyFor number (.singleton Tasks.executorName [Tasks.executorInterfaceName])

/-- A call through a proxy for a labelled caller or for the step that is being played; one that
fails at once has its result at once. -/
def callProxy (world : World) (proxy : ProxyRef) (method : Method) (values : List Value)
    (callSite : String) (caller : Caller) : Option CallError × World :=
  match world.startProxyCall proxy method values callSite caller with
  | .ok after => (none, after)
  | .error error =>
    match caller with
    | .label label => (some error, world.setScene (world.scene.settle label (.called (.error error))))
    | _ => (some error, world.setScene { world.scene with returned := some (.error error) })

/-- Takes what the step that is being played has been told. -/
def takeReturned (world : World) : Option CallResult × World :=
  (world.scene.returned, world.setScene { world.scene with returned := none })

/-- Goes on until the step that is being played has its result.  An endpoint may be closed while it
waits. -/
def awaitReturned (world : World) (closing : Option Nat) : Option CallResult × World :=
  (match closing with
    | some number => world.close number
    | none => world).run.takeReturned

/-- Takes what has been settled since it was last looked at, and the log. -/
def takeNews (world : World) : List (String × Settled) × List (String × Event) × World :=
  (world.scene.settled, world.scene.log,
    world.setScene { world.scene with settled := [], log := [] })

/-! ## What can be seen of an endpoint -/

/-- The name of the supervisor of an endpoint, which is that of the first endpoint it watches. -/
def supervisorName (world : World) (number : Nat) : String :=
  let watcher := (world.composition? number).map (·.supervisor)
  ((world.assembly.compositions.findIdx? fun composition =>
    some composition.supervisor = watcher).map world.scene.nameOf).getD ""

def view? (world : World) (number : Nat) : Option EndpointView := do
  let composition ← world.composition? number
  let station ← world.station? number
  let supervisor ← world.supervisor? number
  if station.held then
    return ⟨station.name, composition.pipe.inFlight, composition.pipe.inboundPending,
      composition.pipe.closed, supervisor.terminated, supervisor.tornDown,
      composition.channel.map fun channel =>
        ⟨channel.calls.pending.length, channel.exports.size, channel.terminated⟩⟩
  else none

/-- What can be seen of the endpoints that the scenario refers to. -/
def views (world : World) : List EndpointView :=
  (List.range world.stations.length).filterMap world.view?

end World

end Courier.Scenario
