import Courier.Pipe.Basic
import Courier.Rpc.Channel
import Courier.Supervisor.Basic

/-!
# Compositions

A composition is what stands at one end of a connection: a pipe, on top of it
perhaps a layer that carries objects, and on top of that perhaps a channel.
Each of them is a part of its own for the supervisor, and several compositions
may share a supervisor.

What a part does may concern another one: a write that fails loses the stream, a
lost stream may end the composition, and a part that closes closes the others.
All of that happens before whoever set it off goes on.  So it is worked off as
an agenda, what follows from an action before what came after it.

Whatever lies outside the compositions, such as the streams, is given as
`Surroundings`.
-/

namespace Courier

set_option autoImplicit false

/-! ## The state -/

/-- The layer that carries objects over a pipe. -/
structure ObjectLayer where
  /-- Whether there is a receiver. -/
  bound : Bool
  /-- Whether the receiver has been told that the pipe has closed. -/
  notified : Bool
deriving DecidableEq

structure Composition where
  /-- The number of the supervisor. -/
  supervisor : Nat
  pipe : Pipe
  objects : Option ObjectLayer
  channel : Option Channel

/-- What may register with a supervisor. -/
inductive Layer where
  | pipe
  | objects
  | channel
deriving DecidableEq

structure Part where
  /-- The number of the composition. -/
  composition : Nat
  layer : Layer
deriving DecidableEq

/-- The parts of the composition of a number, in the order in which they register. -/
def Composition.parts (composition : Composition) (number : Nat) : List Part :=
  ⟨number, .pipe⟩ ::
    (if composition.objects.isSome then [⟨number, .objects⟩] else []) ++
    if composition.channel.isSome then [⟨number, .channel⟩] else []

structure Assembly where
  compositions : List Composition
  supervisors : List (Supervisor Part)

/-! ## Surroundings -/

/-- What the parts do to everything else, as changes of a state. -/
structure Surroundings (ω : Type) where
  /-- Write packets to a stream. -/
  write : StreamId → List Packet → ω → Option StreamError × ω
  /-- Close a stream. -/
  shut : StreamId → ω → ω
  /-- Tell who waits for a message what became of it. -/
  report : Ticket → Outcome → ω → ω
  /-- Tell a caller its result. -/
  complete : Ticket → CallResult → ω → ω
  /-- Run a call of the peer for the channel of a composition. -/
  run : Nat → CallRequest → ω → ω
  /-- Messages wait for the receiver of a composition. -/
  wake : Nat → ω → ω
  /-- Tell the receiver of a composition that it has closed. -/
  tell : Nat → ω → ω

/-! ## The agenda -/

inductive Action where
  /-- What the pipe of a composition asks for. -/
  | pipe (composition : Nat) (effect : PipeEffect)
  /-- What the channel of a composition asks for. -/
  | channel (composition : Nat) (effect : ChannelEffect)
  | close (part : Part)
  /-- Tell the receiver of objects that the pipe has closed, unless it has been told. -/
  | notifyObjects (composition : Nat)
  /-- The teardown of a supervisor has come to its end. -/
  | finish (supervisor : Nat)

namespace Assembly

variable {ω : Type}

def setComposition (assembly : Assembly) (number : Nat) (composition : Composition) : Assembly :=
  { assembly with compositions := assembly.compositions.set number composition }

/-- The actions that close the parts of a teardown. -/
def teardownActions (supervisor : Nat) (parts : List Part) : List Action :=
  parts.map Action.close ++ [.finish supervisor]

/-- A report to the supervisor of a composition.  Any but a warning ends what it supervises. -/
def raise (assembly : Assembly) (supervisor : Nat) (severity : Severity) :
    List Action × Assembly :=
  match severity, assembly.supervisors[supervisor]? with
  | .warning, _ => ([], assembly)
  | _, none => ([], assembly)
  | _, some found =>
    match found.beginTeardown with
    | (some parts, after) =>
      (teardownActions supervisor parts,
        { assembly with supervisors := assembly.supervisors.set supervisor after })
    | (none, _) => ([], assembly)

/-- The loss of the stream of a generation. -/
def lose (assembly : Assembly) (number : Nat) (generation : Nat) (cause : Option StreamError) :
    List Action × Assembly :=
  match assembly.compositions[number]? with
  | none => ([], assembly)
  | some composition =>
    let (pipe, effects) := composition.pipe.lose generation cause
    (effects.map (Action.pipe number), assembly.setComposition number { composition with pipe })

/-- The closing of one part. -/
def close (assembly : Assembly) (part : Part) : List Action × Assembly :=
  match assembly.compositions[part.composition]? with
  | none => ([], assembly)
  | some composition =>
    match part.layer with
    | .pipe =>
      let (pipe, effects) := composition.pipe.close
      (effects.map (Action.pipe part.composition),
        assembly.setComposition part.composition { composition with pipe })
    | .objects =>
      ([.close ⟨part.composition, .pipe⟩, .notifyObjects part.composition], assembly)
    | .channel =>
      match composition.channel with
      | none => ([], assembly)
      | some channel =>
        if channel.terminated then ([], assembly)
        else
          let (ended, effects) := channel.terminate
          (effects.map (Action.channel part.composition) ++
            [.close ⟨part.composition, .objects⟩, .pipe part.composition (.raise .termination)],
            assembly.setComposition part.composition { composition with channel := some ended })

/-- Tells the receiver of objects that the pipe has closed.  A channel closes itself then; of any
other receiver the surroundings know. -/
def notifyObjects (surroundings : Surroundings ω) (assembly : Assembly) (number : Nat)
    (scene : ω) : List Action × Assembly × ω :=
  match assembly.compositions[number]? with
  | none => ([], assembly, scene)
  | some composition =>
    match composition.objects with
    | none => ([], assembly, scene)
    | some layer =>
      if layer.bound ∧ ¬layer.notified then
        let told := assembly.setComposition number
          { composition with objects := some { layer with notified := true } }
        match composition.channel with
        | some _ => ([.close ⟨number, .channel⟩], told, scene)
        | none => ([], told, surroundings.tell number scene)
      else ([], assembly, scene)

/-- Tells the receiver of the pipe that it has closed. -/
def notify (surroundings : Surroundings ω) (assembly : Assembly) (number : Nat) (scene : ω) :
    List Action × Assembly × ω :=
  match assembly.compositions[number]? with
  | none => ([], assembly, scene)
  | some composition =>
    match composition.objects with
    | some _ => ([.notifyObjects number], assembly, scene)
    | none => ([], assembly, surroundings.tell number scene)

/-- Does what a pipe asks for. -/
def performPipe (surroundings : Surroundings ω) (assembly : Assembly) (number : Nat) (scene : ω) :
    PipeEffect → List Action × Assembly × ω
  | .report ticket outcome => ([], assembly, surroundings.report ticket outcome scene)
  | .wake => ([], assembly, surroundings.wake number scene)
  | .write stream generation packets =>
    match surroundings.write stream packets scene with
    | (none, after) => ([], assembly, after)
    | (some error, after) => ([.pipe number (.lose generation (some error))], assembly, after)
  | .shut stream => ([], assembly, surroundings.shut stream scene)
  | .lose generation cause =>
    let (actions, after) := assembly.lose number generation cause
    (actions, after, scene)
  | .notify => notify surroundings assembly number scene
  | .raise severity =>
    match assembly.compositions[number]? with
    | none => ([], assembly, scene)
    | some composition =>
      let (actions, after) := assembly.raise composition.supervisor severity
      (actions, after, scene)

/-- Does one action, and gives what has to be done next. -/
def perform (surroundings : Surroundings ω) (assembly : Assembly) (scene : ω) :
    Action → List Action × Assembly × ω
  | .pipe number effect => performPipe surroundings assembly number scene effect
  | .channel number (.run request) => ([], assembly, surroundings.run number request scene)
  | .channel _ (.complete caller result) =>
    ([], assembly, surroundings.complete caller result scene)
  | .close part =>
    let (actions, after) := assembly.close part
    (actions, after, scene)
  | .notifyObjects number => notifyObjects surroundings assembly number scene
  | .finish supervisor =>
    ([], { assembly with supervisors :=
        assembly.supervisors.modify supervisor Supervisor.finishTeardown }, scene)

end Assembly

end Courier
