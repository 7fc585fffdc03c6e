/-!
# What can be wrong with a byte stream
-/

namespace Courier

set_option autoImplicit false

inductive StreamError where
  /-- This end has been closed. -/
  | closed
  | broken (reason : String)
  /-- Somebody else already takes the bytes of the stream. -/
  | alreadyBound
  /-- There is no scheduler that could run the tasks of the stream. -/
  | noScheduler
deriving DecidableEq, Repr

def StreamError.message : StreamError → String
  | closed => "stream closed"
  | broken reason => s!"stream broken: {reason}"
  | alreadyBound => "stream already has a sink"
  | noScheduler => "no tokio runtime available"

end Courier
