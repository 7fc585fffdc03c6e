import Courier.Scenario.World

/-!
# Turns

A task that is ready gets a turn: it works until it has to wait, or until it
has used up its share of the processor.  Whenever no task is ready, a handler
goes on whose own call has a result, or else a call of the peer is run, the
oldest first.

`run` goes on until nothing is left to be done.  Handlers may call back and
forth without an end, so it stops after a number of turns that no scenario of
sense reaches.
-/

namespace Courier.Scenario

set_option autoImplicit false

namespace World

/-- How much a task does in one turn. -/
def share : Nat := 128

def wake (world : World) (task : Task) : World :=
  { world with scene := world.scene.wake task }

/-- The task that has its turn has used up its share. -/
def yield (world : World) : World := { world with scene := world.scene.yield }

/-! ## Receivers -/

/-- What is said of a message for objects whose endpoint is gone. -/
def objectsGone : String := "object pipe dropped"

/-- Hands a message to the receiver of an endpoint. -/
def receive (world : World) (number : Nat) (blob : Bytes) : Except String Unit × World :=
  match world.composition? number, world.station? number with
  | some composition, some station =>
    let log (event : Event) (world : World) : World :=
      { world with scene := world.scene.note station.name event }
    if composition.objects.isNone then
      (station.blobs.verdict (· == ·) blob, log (.received blob) world)
    else if !world.scene.alive number then (.error objectsGone, world)
    else if composition.channel.isNone then
      match world.marshal number ((world.chain number).decodeValue blob) with
      | (.error fault, after) => (.error fault.message, after)
      | (.ok value, after) =>
        (station.values.verdict Value.equals value, log (.receivedValue value) after)
    else
      match world.marshal number (ChannelMessage.decode (world.chain number) blob) with
      | (.error fault, after) => (.error fault.message, after)
      | (.ok message, after) =>
        (.ok (), after.withChannel number fun channel => channel.receive message)
  | _, _ => (.error objectsGone, world)

/-- Nothing more is handed to the receiver of an endpoint. -/
def endReception (world : World) (number : Nat) : World :=
  match world.composition? number with
  | some composition => world.setComposition number
      { composition with pipe := { composition.pipe with reception := .ended } }
  | none => world

/-- The turn of a receiver: hands over the messages that wait. -/
def receiverTurn (number : Nat) : Nat → World → World
  | 0, world => world.yield
  | share + 1, world =>
    match world.composition? number with
    | none => world
    | some composition =>
      if composition.pipe.reception = .running then
        match composition.pipe.takeWaiting with
        | none => world
        | some ((id, blob), pipe) =>
          let (verdict, received) :=
            (world.setComposition number { composition with pipe }).receive number blob
          if received.scene.alive number then
            receiverTurn number share (received.withPipe number fun pipe => pipe.conclude id verdict)
          else received.endReception number
      else world

/-! ## Streams -/

def setCable (world : World) (number : Nat) (cable : Cable) : World :=
  { world with scene := world.scene.setCable number cable }

def tellMaybe (world : World) (sink : Option Sink) (event : StreamEvent) : World :=
  match sink with
  | some sink => world.tellSink sink event
  | none => world

/-- The pump of one end hands over what has arrived. -/
def pumpOn (number : Nat) (side : Side) : Nat → World → World
  | 0, world => world.yield
  | share + 1, world =>
    match world.scene.cables[number]? with
    | none => world
    | some cable =>
      let (arrival, link) := cable.link.pump side
      let after := world.setCable number { cable with link }
      match arrival with
      | .buffer content =>
        pumpOn number side share (after.tellMaybe (cable.sink side) (.bytes content))
      | .swallowed => pumpOn number side share after
      | .ended told => if told then after.tellMaybe (cable.sink side) (.ended none) else after
      | .nothing => after

/-- The turn of a pump. -/
def pumpTurn (world : World) (number : Nat) (side : Side) : World :=
  match world.scene.cables[number]? with
  | none => world
  | some cable =>
    let (runs, link) := cable.link.startPump side
    let after := world.setCable number { cable with link }
    if runs then pumpOn number side share after else after

/-- What is said of a scripted flush that is to fail. -/
def flushRefused : String := "flush refused"

def setDuplex (world : World) (number : Nat) (duplex : Duplex) : World :=
  { world with scene := world.scene.setDuplex number duplex }

/-- The name under which the flushes of a scripted writer are put down. -/
def writerName : String := "writer"

/-- A scripted writer answers a call. -/
def answerScripted (world : World) (number : Nat) (duplex : Duplex) (writer : ScriptedWriter) :
    WriteCall → Except String Nat × World
  | .write bytes =>
    if writer.failWrite.any fun limit => limit ≤ writer.writes then
      (.error Scene.writeRefused, world)
    else
      let taken := writer.portion bytes
      (.ok taken.length, world.setDuplex number { duplex with target := .script (writer.wrote taken) })
  | .flush =>
    let seen := if writer.pending.isEmpty then world.scene
      else world.scene.note writerName (.flushed writer.pending)
    let fails := writer.failFlush.any fun limit => limit ≤ writer.flushes
    (if fails then .error flushRefused else .ok 0,
      { world with scene := seen }.setDuplex number { duplex with target := .script writer.flush })
  | .shutdown => (.ok 0, { world with scene := world.scene.note writerName .shutdown })

/-- A conduit answers a call of a writer; nothing if the writer has to wait. -/
def answerConduit (world : World) (number : Nat) : WriteCall → Option (Except String Nat) × World
  | .write bytes =>
    match world.scene.conduits[number]? with
    | none => (some (.error Conduit.brokenPipe), world)
    | some conduit =>
      match conduit.write bytes with
      | (some (.ok written), after) =>
        (some (.ok written), { world with scene := world.scene.setConduit number after })
      | (answer, after) => (answer, { world with scene := world.scene.setConduit number after })
  | .flush => (some (.ok 0), world)
  | .shutdown => (some (.ok 0), { world with scene := world.scene.closeConduit number })

/-- The target of a byte stream answers a call of its write loop. -/
def answerWrite (world : World) (number : Nat) (duplex : Duplex) (call : WriteCall) :
    Option (Except String Nat) × World :=
  match duplex.target with
  | .script writer =>
    let (answer, after) := world.answerScripted number duplex writer call
    (some answer, after)
  | .conduit conduit => world.answerConduit conduit call

/-- A write loop does with an answer what is to be done. -/
def finishWrite (world : World) (number : Nat) (answer : Except String Nat) : World :=
  match world.scene.duplexes[number]? with
  | none => world
  | some duplex =>
    let (events, write) := duplex.write.step answer
    let told := events.foldl (fun world event => world.tellMaybe duplex.sink event)
      (world.setDuplex number { duplex with write })
    match told.scene.duplexes[number]? with
    | none => told
    | some after =>
      if after.write.stage = .stopped then told.setDuplex number { after with writing := .ended }
      else told

/-- The turn of a write loop. -/
def writeTurn (number : Nat) : Nat → World → World
  | 0, world => world.yield
  | share + 1, world =>
    match world.scene.duplexes[number]? with
    | none => world
    | some duplex =>
      if duplex.writing = .running then
        match duplex.write.call? with
        | none => world
        | some call =>
          match world.answerWrite number duplex call with
          | (none, after) => after.setDuplex number { duplex with write := duplex.write.takeUp }
          | (some answer, after) => writeTurn number share (after.finishWrite number answer)
      else world

/-- The next answer to a read, with what is left of a script. -/
def answerRead (world : World) (number : Nat) (duplex : Duplex) :
    Option (Except String Bytes) × World :=
  match duplex.source with
  | .script [] => (none, world)
  | .script (.error reason :: rest) =>
    (some (.error reason), world.setDuplex number { duplex with source := .script rest })
  | .script (.ok content :: rest) =>
    let left := content.drop ReadLoop.readSize
    (some (.ok (content.take ReadLoop.readSize)),
      world.setDuplex number { duplex with
        source := .script (if left.isEmpty then rest else .ok left :: rest) })
  | .conduit conduit =>
    match world.scene.conduits[conduit]? with
    | none => (some (.ok []), world)
    | some found =>
      match found.read ReadLoop.readSize with
      | (some [], _) => (some (.ok []), world)
      | (some content, after) =>
        (some (.ok content), { world with scene := world.scene.setConduit conduit after })
      | (none, after) => (none, { world with scene := world.scene.setConduit conduit after })

/-- A read loop does with an answer what is to be done. -/
def finishRead (world : World) (number : Nat) (answer : Except String Bytes) : World :=
  match world.scene.duplexes[number]? with
  | none => world
  | some duplex =>
    let (events, read) := duplex.read.step answer
    let told := events.foldl (fun world event => world.tellMaybe duplex.sink event)
      (world.setDuplex number { duplex with read })
    match told.scene.duplexes[number]? with
    | none => told
    | some after =>
      if after.read matches .stopped then told.setDuplex number { after with reading := .ended }
      else told

/-- The turn of a read loop that is to run. -/
def readOn (number : Nat) : Nat → World → World
  | 0, world => world.yield
  | share + 1, world =>
    match world.scene.duplexes[number]? with
    | none => world
    | some duplex =>
      if duplex.reading = .ended then world
      else
        match world.answerRead number duplex with
        | (none, after) =>
          if duplex.reading = .cancelled then after.setDuplex number { duplex with reading := .ended }
          else after
        | (some answer, after) => readOn number share (after.finishRead number answer)

/-- The turn of a read loop. -/
def readTurn (world : World) (number : Nat) : World :=
  match world.scene.duplexes[number]? with
  | none => world
  | some duplex =>
    match duplex.reading with
    | .running => readOn number share world
    | .cancelled => world.setDuplex number { duplex with reading := .ended }
    | _ => world

/-! ## Messages of channels -/

/-- What becomes of a message of a channel is dealt with. -/
def deliveryTurn (world : World) (ticket : Ticket) : World :=
  match world.scene.deliveries.find? fun delivery => delivery.ticket = ticket with
  | some ⟨_, waiter, some outcome⟩ =>
    let after := { world with scene := { world.scene with
      deliveries := world.scene.deliveries.filter fun delivery => delivery.ticket ≠ ticket } }
    match waiter with
    | .message number errand =>
      if after.scene.alive number then
        match Channel.aftermath errand outcome with
        | .fail id error => after.withChannel number fun channel => channel.callUndelivered id error
        | .replace id reason => after.answerCall number id (Channel.unportableOutcome reason)
        | .giveUp _ _ | .nothing => after
      else after
    | _ => after
  | _ => world

/-! ## Calls of the peer -/

/-- Where the calls that handlers make are made. -/
def handlerSite : String := "@"

/-- One more call of an object that counts them. -/
def count (world : World) (identity : Nat) : Nat × World :=
  let before := ((world.scene.counts.find? fun entry => entry.1 = identity).map (·.2)).getD 0
  let others := world.scene.counts.filter fun entry => entry.1 ≠ identity
  (before + 1, { world with scene := { world.scene with
    counts := (identity, before + 1) :: others } })

/-- The failure of a handler whose own call failed. -/
def callbackEnding (words : CallError → String) : CallResult → Ending
  | .ok value => .value value
  | .error error => .failure (.new Handler.callbackFailed (words error))

/-- Runs a handler.  One that waits for a call of its own has no ending yet. -/
def runHandler (world : World) (number : Nat) (id : UInt64) (service : ServiceRef)
    (handler : Handler) (arguments : Arguments) : Option Ending × World :=
  match handler with
  | .compute body => (some (body arguments), world)
  | .count =>
    let (total, after) := world.count service.identity
    (some (.value (.int (Int64.ofNat total))), after)
  | .notify index method values =>
    match arguments.object index Value.proxy? with
    | .error error => (some (.failure error), world)
    | .ok proxy =>
      match world.startProxyCall proxy method values handlerSite .nobody with
      | .ok after => (some (.value .null), after)
      | .error _ => (some (.value .null), world)
  | .callback index method values words =>
    match arguments.object index Value.proxy? with
    | .error error => (some (.failure error), world)
    | .ok proxy =>
      match world.startProxyCall proxy method values handlerSite
          (.handler ⟨number, id, service.label, arguments.signature, words⟩) with
      | .ok after => (none, after)
      | .error error => (some (callbackEnding words (.error error)), world)

/-- The service object of a reference. -/
def service? (world : World) (reference : ServiceRef) : Option (ServiceObject Handler) :=
  world.scene.services.find? fun service => service.reference.identity = reference.identity

/-- Runs a call of the peer and answers it. -/
def runJob (world : World) (job : Job) : World :=
  let number := job.composition
  let id := job.request.callId
  let target := do
    let channel ← world.channel? number
    world.service? (← channel.lookup? job.request.instanceId)
  let answered := match target with
    | none => world.answerCall number id (noInstanceOutcome job.request.instanceId)
    | some service =>
      let label := service.reference.label
      let signature := job.request.signature
      match service.dispatch signature job.request.arguments with
      | .error error => world.answerCall number id ((Ending.failure error).outcome label signature)
      | .ok (handler, arguments) =>
        match world.runHandler number id service.reference handler arguments with
        | (some ending, after) => after.answerCall number id (ending.outcome label signature)
        | (none, after) => after
  answered.collect number

/-- A handler goes on whose own call has a result. -/
def resume (world : World) (ticket : Ticket) : World :=
  match world.scene.results.find? fun pending => pending.ticket = ticket with
  | some ⟨_, .handler job, some result⟩ =>
    let after := { world with scene := { world.scene with
      results := world.scene.results.filter fun pending => pending.ticket ≠ ticket } }
    (after.answerCall job.composition job.id
      ((callbackEnding job.words result).outcome job.label job.signature)).collect job.composition
  | _ => world

/-! ## Running -/

/-- The turn of a task. -/
def turn (world : World) : Task → World
  | .receiver number => receiverTurn number share world
  | .pump number side => world.pumpTurn number side
  | .writeLoop number => writeTurn number share world
  | .readLoop number => world.readTurn number
  | .delivery ticket => world.deliveryTurn ticket

/-- What is done when no task is ready; nothing if all is done. -/
def proceed (world : World) : Option World :=
  let scene := { world.scene with schedule := world.scene.schedule.rest }
  match scene.resumable, scene.jobs with
  | ticket :: rest, _ => some ({ world with scene := { scene with resumable := rest } }.resume ticket)
  | [], job :: rest =>
    if scene.held then none else some ({ world with scene := { scene with jobs := rest } }.runJob job)
  | [], [] => none

/-- The turns that are taken until nothing is left to be done, at most so many. -/
def runWithin : Nat → World → World
  | 0, world => world
  | turns + 1, world =>
    match world.scene.schedule.next with
    | some (task, schedule) =>
      let after := { world with scene := { world.scene with schedule } }.turn task
      runWithin turns
        { after with scene := { after.scene with schedule := after.scene.schedule.finish } }
    | none =>
      match world.proceed with
      | some after => runWithin turns after
      | none => { world with scene := { world.scene with schedule := world.scene.schedule.rest } }

/-- More turns than any scenario takes. -/
def patience : Nat := 1000000

/-- Goes on until nothing is left to be done. -/
def run (world : World) : World := runWithin patience world

end World

end Courier.Scenario
