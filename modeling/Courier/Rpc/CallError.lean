import Courier.Pipe.Error
import Courier.Rpc.RemoteError

/-!
# What a caller is told of a failed call

In the interface of the runtime it is an `RpcError`.
-/

namespace Courier

set_option autoImplicit false

inductive CallError where
  /-- The implementation failed with a kind of error that the method declares. -/
  | remote (error : RemoteError)
  /-- The other side failed with a kind that the method does not declare. -/
  | undeclared (method : String) (error : RemoteError)
  | closed
  | transport (error : PipeError)
  /-- The call does not fit what is known of its target. -/
  | definition (reason : String)
  | noScheduler
deriving DecidableEq, Repr

namespace CallError

def message : CallError → String
  | remote error => s!"remote error: {error.describe}"
  | undeclared method error => s!"undeclared error from {method}: {error.describe}"
  | closed => "channel closed"
  | transport error => s!"transport failure: {error.message}"
  | definition reason => reason
  | noScheduler => "no tokio runtime available"

/-- The failure of the implementation, declared or not. -/
def remoteError? : CallError → Option RemoteError
  | remote error => some error
  | undeclared _ error => some error
  | _ => none

def isClosed : CallError → Bool
  | closed => true
  | _ => false

/-- What a failure of the pipe means for a call. -/
def ofPipeError : PipeError → CallError
  | .closed => closed
  | .noScheduler => noScheduler
  | error => transport error

/-- What a caller is told of an error of the implementation of its method. -/
def ofRemoteError (method : Method) (callSite : String) (error : RemoteError) : CallError :=
  let spliced := error.spliced callSite method.signature
  if method.declares error.kind then remote spliced
  else undeclared method.signature.describe spliced

end CallError

end Courier
