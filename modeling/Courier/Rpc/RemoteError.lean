import Courier.Rpc.Signature

/-!
# Failures of remote calls

A failure inside an implementation travels back as data: a kind, a message and
a trace of where it came by, each frame with its origin.  The frames of the
channel's own machinery are dropped before the caller sees the error, and the
place of the call is appended.
-/

namespace Courier

set_option autoImplicit false

/-- Where a frame of a trace comes from. -/
inductive FrameOrigin where
  /-- The remote implementation. -/
  | remote
  /-- The place that started the call. -/
  | caller
  /-- The channel's own machinery. -/
  | internal
deriving DecidableEq, Repr

namespace FrameOrigin

def name : FrameOrigin → String
  | remote => "remote"
  | caller => "local"
  | internal => "internal"

def ofName? (name : String) : Option FrameOrigin :=
  match name with
  | "remote" => some remote
  | "local" => some caller
  | "internal" => some internal
  | _ => none

@[simp] theorem ofName?_name (origin : FrameOrigin) : ofName? origin.name = some origin := by
  cases origin <;> rfl

end FrameOrigin

structure TraceFrame where
  location : String
  origin : FrameOrigin
deriving DecidableEq, Repr

structure RemoteError where
  kind : String
  message : String
  trace : List TraceFrame
deriving DecidableEq, Repr

namespace RemoteError

/-! ## Kinds that the library raises -/

/-- The target of a call is not exported. -/
def noSuchInstance : String := "NoSuchInstance"

/-- The target does not implement the method. -/
def noSuchMethod : String := "NoSuchMethod"

/-- The arguments do not fit the parameters. -/
def badArguments : String := "BadArguments"

/-- The implementation broke off. -/
def panic : String := "Panic"

/-- The result could not be marshaled back. -/
def unportableResult : String := "UnportableResult"

/-! ## Building an error -/

/-- An error without a trace. -/
def new (kind message : String) : RemoteError := ⟨kind, message, []⟩

/-- One more frame at the end of the trace. -/
def push (error : RemoteError) (location : String) (origin : FrameOrigin) : RemoteError :=
  { error with trace := error.trace ++ [⟨location, origin⟩] }

/-- The name of the machinery in a trace. -/
def dispatchFrame : String := "tether::rpc::dispatch"

/-- The error as its caller sees it: without internal frames, and with the place of the call. -/
def spliced (error : RemoteError) (callSite : String) (signature : Signature) : RemoteError :=
  { error with trace := error.trace.filter fun frame => frame.origin ≠ FrameOrigin.internal }.push
    s!"{signature.describe} called at {callSite}" .caller

/-- The error as a reader is shown it, a line for each frame. -/
def describe (error : RemoteError) : String :=
  error.trace.foldl (fun text frame => text ++ s!"\n    at {frame.location}")
    s!"{error.kind}: {error.message}"

/-! ## On the wire -/

def frameJson (frame : TraceFrame) : Json :=
  .object [("location", .string frame.location), ("origin", .string frame.origin.name)]

def toJson (error : RemoteError) : Json :=
  .object [("kind", .string error.kind), ("message", .string error.message),
    ("trace", .array (error.trace.map frameJson))]

/-- An origin of a frame.  Errors are only read from parts that were put aside. -/
def originOfDraft (draft : Json.Draft) : Except DecodeError FrameOrigin := do
  match FrameOrigin.ofName? (← draft.choice true) with
  | some origin => return origin
  | none => throw .malformed

def frameOfDraft (draft : Json.Draft) : Except DecodeError TraceFrame := do
  let fields ← draft.foldRecord ["location", "origin"] (fun fields key value =>
    if key = "location" then do
      let text ← value.text
      return (some text, fields.2)
    else do
      let origin ← originOfDraft value
      return (fields.1, some origin)) ((none, none) : Option String × Option FrameOrigin)
  match fields with
  | (some location, some origin) => return ⟨location, origin⟩
  | _ => throw .malformed

/-- The fields of an error that have been read. -/
structure Fields where
  kind : Option String
  message : Option String
  trace : List TraceFrame

def Fields.step (fields : Fields) (key : String) (value : Json.Draft) :
    Except DecodeError Fields := do
  match key with
  | "kind" =>
    let text ← value.text
    return { fields with kind := some text }
  | "message" =>
    let text ← value.text
    return { fields with message := some text }
  | _ =>
    let frames ← (← value.items).mapM frameOfDraft
    return { fields with trace := frames }

/-- An error from its fields; a missing trace is empty. -/
def ofDraft (draft : Json.Draft) : Except DecodeError RemoteError := do
  let fields ← draft.foldRecord ["kind", "message", "trace"] Fields.step ⟨none, none, []⟩
  match fields with
  | ⟨some kind, some message, trace⟩ => return ⟨kind, message, trace⟩
  | _ => throw .malformed

end RemoteError

end Courier
