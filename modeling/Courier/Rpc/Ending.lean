import Courier.Rpc.RemoteError
import Courier.Value.Basic

/-!
# How an implementation ends

The implementation of a method gives a value, fails with an error of its own,
or breaks off.  Whatever it does, its caller gets an answer: the outcome of the
call, in which a failure has two more frames in its trace, the method of the
object that failed and the machinery that ran it.
-/

namespace Courier

set_option autoImplicit false

inductive Ending where
  | value (value : Value)
  | failure (error : RemoteError)
  /-- The implementation broke off, with words or without. -/
  | panic (words : Option String)

namespace Ending

/-- What an implementation gave that either succeeded or failed. -/
def ofExcept : Except RemoteError Value → Ending
  | .ok result => value result
  | .error error => failure error

/-- The words for an implementation that broke off without any. -/
def wordless : String := "handler panicked"

/-- The result, or the error that a failure amounts to. -/
def toExcept : Ending → Except RemoteError Value
  | value result => .ok result
  | failure error => .error error
  | panic words => .error (.new RemoteError.panic (words.getD wordless))

/-- What the caller is answered when a method of an object labelled `label` ended. -/
def outcome (ending : Ending) (label : String) (signature : Signature) :
    Except RemoteError Value :=
  match ending.toExcept with
  | .ok result => .ok result
  | .error error =>
    .error ((error.push s!"{label}: {signature.describe}" .remote).push
      RemoteError.dispatchFrame .internal)

end Ending

/-- What the caller is answered when there is no object under the id it called. -/
def noInstanceOutcome (instanceId : String) : Except RemoteError Value :=
  .error ((RemoteError.new RemoteError.noSuchInstance s!"no instance {instanceId}").push
    RemoteError.dispatchFrame .internal)

end Courier
