import Courier.Link.Error
import Courier.Wire.MessageId

/-!
# What can become of a message that is not delivered
-/

namespace Courier

set_option autoImplicit false

inductive PipeError where
  | closed
  /-- The receiver refused the message. -/
  | rejected (id : MessageId) (reason : String)
  | tooManyInFlight (limit : Nat)
  | alreadyBound
  /-- The object could not be written as a message. -/
  | marshal (reason : String)
  | stream (error : StreamError)
  /-- There is no scheduler that could run the tasks of the pipe. -/
  | noScheduler
deriving DecidableEq, Repr

def PipeError.message : PipeError → String
  | closed => "pipe closed"
  | rejected id reason => s!"message {id} rejected by peer: {reason}"
  | tooManyInFlight limit => s!"too many messages in flight (limit {limit})"
  | alreadyBound => "pipe already has a receiver"
  | marshal reason => s!"marshaling failed: {reason}"
  | stream error => s!"stream rejected: {error.message}"
  | noScheduler => "no tokio runtime available"

/-- The reason for refusing a message at which the receiver broke off. -/
def receiverPanicked : String := "receiver panicked"

/-- What became of a sent message. -/
abbrev Outcome := Except PipeError Unit

end Courier
