import Courier.Bytes.Basic
import Courier.Link.Error

/-!
# Memory links

Two ends in one process.  A buffer that is written to one end arrives whole at
the other one, in order.  Each end has a task, the pump, that hands what
arrives to whoever is bound to the end.

A severed link is silent: writes go on to succeed, but nothing arrives any more
and nobody is told of an end.

In the interface of the runtime the pair is a `MemoryDuplex`.
-/

namespace Courier

set_option autoImplicit false

inductive Side where
  | a
  | b
deriving DecidableEq

def Side.other : Side → Side
  | a => b
  | b => a

/-- What becomes of the buffers that arrive at an end. -/
inductive Intake where
  /-- They wait for somebody to be bound. -/
  | waiting
  /-- The pump hands them over. -/
  | pumping
  /-- The pump is to stop, and has not yet noticed. -/
  | cancelled
  /-- Nobody will ever take them. -/
  | gone
deriving DecidableEq

structure MemoryEnd where
  /-- Whether buffers can be written to this end. -/
  sending : Bool
  /-- The buffers that have arrived. -/
  inbox : List Bytes
  intake : Intake
deriving DecidableEq

namespace MemoryEnd

def new : MemoryEnd := ⟨true, [], .waiting⟩

/-- The end when its owner lets go of it: nothing more is written, and nobody can be bound any more,
but a pump goes on. -/
def released (state : MemoryEnd) : MemoryEnd :=
  { state with
    sending := false
    intake := if state.intake = .waiting then .gone else state.intake }

/-- The end when it is closed: its pump is to stop as well. -/
def closed (state : MemoryEnd) : MemoryEnd :=
  { state.released with
    intake := if state.intake = .pumping then .cancelled else state.released.intake }

end MemoryEnd

structure MemoryLink where
  a : MemoryEnd
  b : MemoryEnd
  severed : Bool
deriving DecidableEq

namespace MemoryLink

def new : MemoryLink := ⟨.new, .new, false⟩

def get (link : MemoryLink) : Side → MemoryEnd
  | .a => link.a
  | .b => link.b

def set (link : MemoryLink) (side : Side) (state : MemoryEnd) : MemoryLink :=
  match side with
  | .a => { link with a := state }
  | .b => { link with b := state }

/-- What a reader is shown of an end. -/
def describe : Side → String
  | .a => "memory:a"
  | .b => "memory:b"

/-- Cuts the link silently in both directions. -/
def sever (link : MemoryLink) : MemoryLink := { link with severed := true }

/-- Binds somebody to an end, whose pump then has to run. -/
def bind (link : MemoryLink) (side : Side) : Except StreamError MemoryLink :=
  match (link.get side).intake with
  | .waiting => .ok (link.set side { link.get side with intake := .pumping })
  | _ => .error .alreadyBound

/-- Writes a buffer to an end. -/
def write (link : MemoryLink) (side : Side) (buffer : Bytes) : Except StreamError MemoryLink :=
  let peer := link.get side.other
  if !(link.get side).sending then .error .closed
  else if link.severed then .ok link
  else if peer.intake = .gone then .error (.broken "peer end dropped")
  else .ok (link.set side.other { peer with inbox := peer.inbox ++ [buffer] })

def release (link : MemoryLink) (side : Side) : MemoryLink :=
  link.set side (link.get side).released

def close (link : MemoryLink) (side : Side) : MemoryLink := link.set side (link.get side).closed

/-! ## The pump -/

/-- What the pump of an end finds. -/
inductive Arrival where
  | buffer (content : Bytes)
  /-- A buffer of a severed link, which is dropped. -/
  | swallowed
  /-- The other end is closed; whoever is bound is told so unless the link is severed. -/
  | ended (told : Bool)
  | nothing

/-- What the pump of an end does next. -/
def pump (link : MemoryLink) (side : Side) : Arrival × MemoryLink :=
  let state := link.get side
  match state.inbox with
  | content :: rest =>
    (if link.severed then .swallowed else .buffer content,
      link.set side { state with inbox := rest })
  | [] =>
    if (link.get side.other).sending then
      (.nothing, if state.intake = .cancelled then link.set side { state with intake := .gone }
        else link)
    else (.ended !link.severed, link.set side { state with intake := .gone })

/-- Whether the pump of an end runs when it has a turn.  One that is to stop does so then. -/
def startPump (link : MemoryLink) (side : Side) : Bool × MemoryLink :=
  let state := link.get side
  match state.intake with
  | .pumping => (true, link)
  | .cancelled => (false, link.set side { state with inbox := [], intake := .gone })
  | _ => (false, link)

end MemoryLink

end Courier
