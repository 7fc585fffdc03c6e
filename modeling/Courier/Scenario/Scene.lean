import Courier.Composition.Agenda
import Courier.Link.Conduit
import Courier.Link.Loops
import Courier.Link.Memory
import Courier.Scenario.Handlers
import Courier.Scenario.Schedule
import Courier.Scenario.Stages

/-!
# Scenes

A scene is everything around the compositions of a scenario: the streams, the
schedule of the tasks, the calls that wait to be run, who waits for which message
or call, and a log of what could be seen.

A task is woken only by what it waits for: a loop that waits for a buffer is not
woken by room in a conduit, nor the other way round.
-/

namespace Courier.Scenario

set_option autoImplicit false

/-! ## The log -/

/-- What can be seen of an endpoint or a stream. -/
inductive Event where
  /-- One write of a scripted stream. -/
  | wrote (stream : String) (packets : List Packet)
  | streamClosed (stream : String)
  /-- The receiver is handed a message. -/
  | received (blob : Bytes)
  /-- The receiver is handed an object. -/
  | receivedValue (value : Value)
  /-- The receiver is told that the pipe has closed. -/
  | closed
  /-- A line of a stage that leaves a trace. -/
  | stage (line : String)
  /-- What the sink of a stream is told. -/
  | told (event : StreamEvent)
  /-- A writer was flushed after these bytes. -/
  | flushed (bytes : Bytes)
  /-- A writer was shut down. -/
  | shutdown

/-! ## Streams -/

/-- Who takes the bytes of a stream. -/
inductive Sink where
  /-- The pipe of a composition, for a generation. -/
  | pipe (composition generation : Nat)
  /-- The log, under a name. -/
  | recorder (name : String)

/-- A stream whose answers are fixed in advance, and whose writes are put down. -/
structure ScriptedStream where
  name : String
  /-- The endpoint under whose name its writes are put down. -/
  owner : String
  failsBind : Bool
  /-- After how many writes every further one fails. -/
  failsAfter : Option Nat
  writes : Nat
  sink : Option Sink

/-- A memory link with those who are bound to its ends. -/
structure Cable where
  link : MemoryLink
  sinkA : Option Sink
  sinkB : Option Sink

namespace Cable

def new : Cable := ⟨.new, none, none⟩

def sink (cable : Cable) : Side → Option Sink
  | .a => cable.sinkA
  | .b => cable.sinkB

def setSink (cable : Cable) (side : Side) (sink : Sink) : Cable :=
  match side with
  | .a => { cable with sinkA := some sink }
  | .b => { cable with sinkB := some sink }

end Cable

/-- Where a byte stream reads from. -/
inductive Source where
  /-- Reads with fixed answers; one read takes no more than one of them. -/
  | script (answers : List (Except String Bytes))
  | conduit (number : Nat)

/-- A writer that takes a limited number of bytes at a time and fails when it is told to. -/
structure ScriptedWriter where
  perWrite : Option Nat
  failWrite : Option Nat
  failFlush : Option Nat
  writes : Nat
  flushes : Nat
  /-- What has been written since the last flush, a piece a call, the last one first. -/
  pieces : List Bytes

namespace ScriptedWriter

/-- What has been written since the last flush. -/
def pending (writer : ScriptedWriter) : Bytes := writer.pieces.reverse.flatten

/-- How much of some bytes one call takes. -/
def portion (writer : ScriptedWriter) (bytes : Bytes) : Bytes :=
  match writer.perWrite with
  | some limit => bytes.take limit
  | none => bytes

/-- The writer after a call that took these bytes. -/
def wrote (writer : ScriptedWriter) (bytes : Bytes) : ScriptedWriter :=
  { writer with writes := writer.writes + 1, pieces := bytes :: writer.pieces }

@[simp] theorem pending_wrote (writer : ScriptedWriter) (bytes : Bytes) :
    (writer.wrote bytes).pending = writer.pending ++ bytes := by
  simp [wrote, pending]

/-- The writer after a flush. -/
def flush (writer : ScriptedWriter) : ScriptedWriter :=
  { writer with flushes := writer.flushes + 1, pieces := [] }

@[simp] theorem pending_flush (writer : ScriptedWriter) : writer.flush.pending = [] := rfl

end ScriptedWriter

/-- Where a byte stream writes to. -/
inductive Target where
  | script (writer : ScriptedWriter)
  | conduit (number : Nat)

/-- How far a task has come. -/
inductive Progress where
  | unstarted
  | running
  /-- The task is to stop, and has not yet noticed. -/
  | cancelled
  | ended
deriving DecidableEq

/-- A byte stream that is read and written by two loops. -/
structure Duplex where
  label : String
  framing : Framing
  source : Source
  target : Target
  read : ReadLoop
  write : WriteLoop
  reading : Progress
  writing : Progress
  sink : Option Sink

namespace Duplex

def new (label : String) (framing : Framing) (source : Source) (target : Target) : Duplex :=
  ⟨label, framing, source, target, .new framing, .new framing, .unstarted, .unstarted, none⟩

/-- Whether nothing of the stream is used any more. -/
def ended (duplex : Duplex) : Bool := duplex.reading = .ended && duplex.writing = .ended

end Duplex

/-- What a stream of a number is. -/
inductive Stream where
  | scripted (stream : ScriptedStream)
  | cable (number : Nat) (side : Side)
  | duplex (number : Nat)

/-! ## Jobs and those who wait -/

/-- A call of the peer that waits to be run. -/
structure Job where
  composition : Nat
  request : CallRequest

/-- Who waits for what becomes of a message. -/
inductive Waiter where
  | sender (label : String)
  /-- The channel of a composition, which has sent it on an errand. -/
  | message (composition : Nat) (errand : Errand)
  | nobody

structure Delivery where
  ticket : Ticket
  waiter : Waiter
  outcome : Option Outcome

/-- A call of the peer whose handler waits for a call of its own. -/
structure Suspended where
  composition : Nat
  id : UInt64
  label : String
  signature : Signature
  /-- The words for a failure of the handler's own call. -/
  words : CallError → String

/-- Who waits for the result of a call. -/
inductive Caller where
  | label (label : String)
  /-- The step that is being played. -/
  | step
  | handler (job : Suspended)
  | nobody

structure PendingResult where
  ticket : Ticket
  caller : Caller
  result : Option CallResult

/-- What an endpoint's sender or caller has been told. -/
inductive Settled where
  | sent (outcome : Outcome)
  | called (result : CallResult)

/-- What is told to somebody who asks again after being told. -/
def Settled.again : Settled → Settled
  | sent _ => .sent (.error .closed)
  | called _ => .called (.error .closed)

/-! ## The scene -/

structure Scene where
  streams : List Stream
  cables : List Cable
  duplexes : List Duplex
  conduits : List Conduit
  services : List (ServiceObject Handler)
  /-- How often each counting object has been called. -/
  counts : List (Nat × Nat)
  /-- The names of the compositions. -/
  names : List String
  /-- The compositions that nothing refers to any more. -/
  gone : List Nat
  schedule : Schedule
  /-- The handlers that can go on since their own call has a result, by its ticket. -/
  resumable : List Ticket
  jobs : List Job
  /-- Whether jobs are held back. -/
  held : Bool
  tickets : Ticket
  deliveries : List Delivery
  results : List PendingResult
  /-- What has been settled since it was last looked at. -/
  settled : List (String × Settled)
  /-- The results of calls by label. -/
  values : List (String × Value)
  /-- What the step that is being played has been told. -/
  returned : Option CallResult
  log : List (String × Event)

namespace Scene

def new : Scene :=
  ⟨[], [], [], [], [], [], [], [], .empty, [], [], false, 0, [], [], [], [], none, []⟩

def note (scene : Scene) (name : String) (event : Event) : Scene :=
  { scene with log := scene.log ++ [(name, event)] }

def nameOf (scene : Scene) (composition : Nat) : String := (scene.names[composition]?).getD ""

def alive (scene : Scene) (composition : Nat) : Bool := !scene.gone.contains composition

/-- Makes a task ready to run, unless it already is. -/
def wake (scene : Scene) (task : Task) : Scene :=
  { scene with schedule := scene.schedule.wake task }

/-- The task that has its turn has used up its share. -/
def yield (scene : Scene) : Scene := { scene with schedule := scene.schedule.yield }

/-! ## Those who wait -/

/-- A new ticket for somebody who waits for a message. -/
def await (scene : Scene) (waiter : Waiter) : Ticket × Scene :=
  (scene.tickets, { scene with
    tickets := scene.tickets + 1
    deliveries := scene.deliveries ++ [⟨scene.tickets, waiter, none⟩] })

/-- A new ticket for somebody who waits for the result of a call. -/
def awaitResult (scene : Scene) (caller : Caller) : Ticket × Scene :=
  (scene.tickets, { scene with
    tickets := scene.tickets + 1
    results := scene.results ++ [⟨scene.tickets, caller, none⟩] })

def settle (scene : Scene) (label : String) (what : Settled) : Scene :=
  { scene with settled := scene.settled ++ [(label, what)] }

/-- Somebody is told what became of a message. -/
def report (ticket : Ticket) (outcome : Outcome) (scene : Scene) : Scene :=
  let rest := scene.deliveries.filter fun delivery => delivery.ticket ≠ ticket
  match scene.deliveries.find? fun delivery => delivery.ticket = ticket with
  | none => scene
  | some delivery =>
    match delivery.waiter with
    | .sender label => { scene with deliveries := rest }.settle label (.sent outcome)
    | .nobody => { scene with deliveries := rest }
    | _ =>
      { scene with deliveries := rest ++ [{ delivery with outcome := some outcome }] }.wake
        (.delivery ticket)

/-- Keeps the value that a call gave. -/
def keep (scene : Scene) (label : String) : CallResult → Scene
  | .ok value => { scene with values := (label, value) :: scene.values }
  | .error _ => scene

/-- A caller is told its result. -/
def complete (ticket : Ticket) (result : CallResult) (scene : Scene) : Scene :=
  let rest := scene.results.filter fun pending => pending.ticket ≠ ticket
  match scene.results.find? fun pending => pending.ticket = ticket with
  | none => scene
  | some pending =>
    match pending.caller with
    | .label label =>
      ({ scene with results := rest }.keep label result).settle label (.called result)
    | .step => { scene with results := rest, returned := some result }
    | .nobody => { scene with results := rest }
    | .handler _ =>
      { scene with
        results := rest ++ [{ pending with result := some result }]
        resumable := scene.resumable ++ [ticket] }

/-- A sender or caller stops waiting. -/
def forget (scene : Scene) (label : String) : Scene :=
  { scene with
    deliveries := scene.deliveries.map fun delivery =>
      match delivery.waiter with
      | .sender other => if other = label then { delivery with waiter := .nobody } else delivery
      | _ => delivery
    results := scene.results.map fun pending =>
      match pending.caller with
      | .label other => if other = label then { pending with caller := .nobody } else pending
      | _ => pending }

/-! ## Conduits -/

/-- The tasks that read from a conduit. -/
def readersOf (scene : Scene) (conduit : Nat) : List Task :=
  scene.duplexes.zipIdx.filterMap fun (duplex, number) =>
    match duplex.source with
    | .conduit other => if other = conduit then some (Task.readLoop number) else none
    | .script _ => none

/-- The tasks that write to a conduit. -/
def writersOf (scene : Scene) (conduit : Nat) : List Task :=
  scene.duplexes.zipIdx.filterMap fun (duplex, number) =>
    match duplex.target with
    | .conduit other => if other = conduit then some (Task.writeLoop number) else none
    | .script _ => none

/-- Changes a conduit and wakes the tasks that wait for it but need not any more. -/
def setConduit (scene : Scene) (number : Nat) (conduit : Conduit) : Scene :=
  let before := scene.conduits[number]?
  let changed := { scene with conduits := scene.conduits.set number conduit }
  let reader := if before.any (·.readerWaits) && !conduit.readerWaits then changed.readersOf number
    else []
  let writer := if before.any (·.writerWaits) && !conduit.writerWaits then changed.writersOf number
    else []
  (reader ++ writer).foldl wake changed

def closeConduit (scene : Scene) (number : Nat) : Scene :=
  match scene.conduits[number]? with
  | some conduit => if conduit.closed then scene else scene.setConduit number conduit.close
  | none => scene

/-- Both directions of a byte stream are closed once nothing of it is used any more. -/
def retireDuplex (scene : Scene) (number : Nat) : Scene :=
  match scene.duplexes[number]? with
  | none => scene
  | some duplex =>
    if duplex.ended then
      let first := match duplex.target with
        | .conduit conduit => scene.closeConduit conduit
        | .script _ => scene
      match duplex.source with
      | .conduit conduit => first.closeConduit conduit
      | .script _ => first
    else scene

def setDuplex (scene : Scene) (number : Nat) (duplex : Duplex) : Scene :=
  { scene with duplexes := scene.duplexes.set number duplex }.retireDuplex number

/-! ## What can be done with a stream -/

def setStream (scene : Scene) (id : StreamId) (stream : Stream) : Scene :=
  { scene with streams := scene.streams.set id stream }

def setCable (scene : Scene) (number : Nat) (cable : Cable) : Scene :=
  { scene with cables := scene.cables.set number cable }

/-- Wakes the pump of an end, if it runs or is to stop. -/
def wakePump (scene : Scene) (number : Nat) (side : Side) : Scene :=
  match scene.cables[number]? with
  | some cable =>
    match (cable.link.get side).intake with
    | .pumping | .cancelled => scene.wake (.pump number side)
    | .waiting | .gone => scene
  | none => scene

/-- Wakes the write loop of a byte stream, if it waits for a buffer. -/
def wakeWriter (scene : Scene) (number : Nat) : Scene :=
  match scene.duplexes[number]? with
  | some duplex =>
    if duplex.writing = .running && duplex.write.stage = .resting then
      scene.wake (.writeLoop number)
    else scene
  | none => scene

/-- Adds a stream. -/
def addStream (scene : Scene) (stream : Stream) : StreamId × Scene :=
  (scene.streams.length, { scene with streams := scene.streams ++ [stream] })

/-- Adds a memory link and gives its two ends. -/
def addCable (scene : Scene) : StreamId × StreamId × Scene :=
  let number := scene.cables.length
  let (first, scene) := { scene with cables := scene.cables ++ [Cable.new] }.addStream (.cable number .a)
  let (second, scene) := scene.addStream (.cable number .b)
  (first, second, scene)

def addDuplex (scene : Scene) (duplex : Duplex) : StreamId × Scene :=
  { scene with duplexes := scene.duplexes ++ [duplex] }.addStream
    (.duplex scene.duplexes.length)

/-- Adds two byte streams that are joined by conduits of a capacity, and gives the two. -/
def addDuplexPair (scene : Scene) (capacity : Nat) (framing : Framing) :
    StreamId × StreamId × Scene :=
  let number := scene.conduits.length
  let scene := { scene with
    conduits := scene.conduits ++ [Conduit.new capacity, Conduit.new capacity] }
  let (first, scene) := scene.addDuplex
    (.new "a" framing (.conduit (number + 1)) (.conduit number))
  let (second, scene) := scene.addDuplex
    (.new "b" framing (.conduit number) (.conduit (number + 1)))
  (first, second, scene)

/-- Binds somebody to a stream.  Most streams need a scheduler for their tasks. -/
def bindStream (scene : Scene) (id : StreamId) (sink : Sink) (scheduler : Bool) :
    Except StreamError Scene :=
  match scene.streams[id]? with
  | none => .error .closed
  | some (.scripted stream) =>
    if stream.failsBind ∨ stream.sink.isSome then .error .alreadyBound
    else .ok (scene.setStream id (.scripted { stream with sink := some sink }))
  | some (.cable number side) =>
    if !scheduler then .error .noScheduler
    else
      match scene.cables[number]? with
      | none => .error .closed
      | some cable => do
        let link ← cable.link.bind side
        return (scene.setCable number ({ cable with link }.setSink side sink)).wake
          (.pump number side)
  | some (.duplex number) =>
    if !scheduler then .error .noScheduler
    else
      match scene.duplexes[number]? with
      | none => .error .closed
      | some duplex =>
        if duplex.reading = .unstarted then
          .ok (((scene.setDuplex number { duplex with
              reading := .running
              writing := .running
              sink := some sink }).wake (.writeLoop number)).wake (.readLoop number))
        else .error .alreadyBound

/-- Writes a buffer to a stream whose writes are not scripted. -/
def writeBytes (scene : Scene) (id : StreamId) (bytes : Bytes) : Option StreamError × Scene :=
  match scene.streams[id]? with
  | some (.cable number side) =>
    match scene.cables[number]? with
    | none => (some .closed, scene)
    | some cable =>
      match cable.link.write side bytes with
      | .error error => (some error, scene)
      | .ok link => (none, (scene.setCable number { cable with link }).wakePump number side.other)
  | some (.duplex number) =>
    match scene.duplexes[number]? with
    | none => (some .closed, scene)
    | some duplex =>
      match duplex.write.push bytes with
      | .error error => (some error, scene)
      | .ok write =>
        (none, (scene.setDuplex number { duplex with write }).wakeWriter number)
  | _ => (some .closed, scene)

/-- What is said of a scripted write that is to fail. -/
def writeRefused : String := "write refused"

/-- Writes packets to a stream as one buffer. -/
def write (id : StreamId) (packets : List Packet) (scene : Scene) : Option StreamError × Scene :=
  match scene.streams[id]? with
  | some (.scripted stream) =>
    if stream.failsAfter.any fun limit => limit ≤ stream.writes then
      (some (.broken writeRefused), scene)
    else
      (none, (scene.setStream id (.scripted { stream with writes := stream.writes + 1 })).note
        stream.owner (.wrote stream.name packets))
  | _ => scene.writeBytes id (packets.flatMap Packet.encode)

/-- Closes a stream. -/
def shut (id : StreamId) (scene : Scene) : Scene :=
  match scene.streams[id]? with
  | some (.scripted stream) => scene.note stream.owner (.streamClosed stream.name)
  | some (.cable number side) =>
    match scene.cables[number]? with
    | none => scene
    | some cable =>
      ((scene.setCable number { cable with link := cable.link.close side }).wakePump number
        side.other).wakePump number side
  | some (.duplex number) =>
    match scene.duplexes[number]? with
    | none => scene
    | some duplex =>
      let started := duplex.reading ≠ .unstarted
      ((scene.setDuplex number { duplex with
          write := duplex.write.finish
          reading := if duplex.reading = .running then .cancelled else .ended
          writing := if started then duplex.writing else .ended }).wakeWriter number).wake
        (.readLoop number)
  | none => scene

/-- The owner of a stream lets go of it, unless the scenario has a hold on it itself. -/
def release (id : StreamId) (scene : Scene) : Scene :=
  match scene.streams[id]? with
  | some (.duplex number) =>
    match scene.duplexes[number]? with
    | none => scene
    | some duplex =>
      let started := duplex.reading ≠ .unstarted
      (scene.setDuplex number { duplex with
          write := duplex.write.finish
          reading := if started then duplex.reading else .ended
          writing := if started then duplex.writing else .ended }).wakeWriter number
  | _ => scene

/-- The sink of a scripted stream, by its name; of several the last. -/
def scriptedSink? (scene : Scene) (name : String) : Option Sink :=
  (scene.streams.filterMap fun stream =>
    match stream with
    | .scripted scripted => if scripted.name = name then some scripted.sink else none
    | _ => none).getLast?.join

/-! ## The surroundings of the compositions -/

/-- Queues a call of the peer. -/
def queue (composition : Nat) (request : CallRequest) (scene : Scene) : Scene :=
  { scene with jobs := scene.jobs ++ [⟨composition, request⟩] }

def surroundings : Surroundings Scene where
  write := write
  shut := shut
  report := report
  complete := complete
  run := queue
  wake composition scene := scene.wake (.receiver composition)
  tell composition scene := scene.note (scene.nameOf composition) .closed

end Scene

end Courier.Scenario
