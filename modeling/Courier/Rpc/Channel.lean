import Courier.Rpc.Calls
import Courier.Rpc.Message
import Courier.Rpc.Registry

/-!
# Channels

A channel is one end of a connection over which each side calls the objects of
the other.  It keeps the calls it has started, the objects it has exported and
the proxies it has made for objects of the peer; the messages themselves travel
over a pipe.

On the way out the channel's own stage of the marshaling chain puts a handle in
place of an object of this side, exporting it if need be, and in place of a
proxy.  On the way in it puts the object or a proxy in place of a handle.  An
object comes back as itself, and there is one proxy for one object of the peer.

In the interface of the runtime a channel is an `RpcChannel` and its own stage the
`RpcMarshaler`; `exportObject` is `export_object` there, `proxy` is `import`, and
`receive` takes what `on_call` and `on_return` take.
-/

namespace Courier

set_option autoImplicit false

structure Channel where
  /-- The number by which proxies know their channel. -/
  number : Nat
  exports : Exports
  /-- The proxies that have been made, by instance id. -/
  imports : List (String × ProxyRef)
  /-- How many proxies have been made. -/
  imported : Nat
  singletons : Singletons
  calls : CallTable
  terminated : Bool

/-- What a channel asks of its surroundings. -/
inductive ChannelEffect where
  /-- Run a call of the peer, away from the task that reads the transport. -/
  | run (request : CallRequest)
  /-- Tell a caller its result. -/
  | complete (caller : Ticket) (result : CallResult)

namespace Channel

def new (number : Nat) (mark : Nat → UInt64) (singletons : Singletons) : Channel :=
  ⟨number, .new mark, [], 0, singletons, .new, false⟩

/-! ## References to objects -/

/-- The object of this side that an instance id names. -/
def lookup? (channel : Channel) (instanceId : String) : Option ServiceRef :=
  match RemoteHandle.singletonNameOf? instanceId with
  | some name => channel.singletons.get? name
  | none => channel.exports.lookup? instanceId

/-- The proxy for a handle.  The first handle with an instance id is the one that its proxy has. -/
def proxy (channel : Channel) (handle : RemoteHandle) : ProxyRef × Channel :=
  match channel.imports.find? fun entry => entry.1 = handle.instanceId with
  | some entry => (entry.2, channel)
  | none =>
    let proxy := ⟨channel.number, channel.imported, handle⟩
    (proxy, { channel with
      imports := channel.imports ++ [(handle.instanceId, proxy)]
      imported := channel.imported + 1 })

/-- What a handle of the peer stands for: the object of this side that it names, or a proxy. -/
def resolve (channel : Channel) (handle : RemoteHandle) : LiveObject × Channel :=
  match channel.lookup? handle.instanceId with
  | some service => (.service service, channel)
  | none =>
    let (proxy, after) := channel.proxy handle
    (.proxy proxy, after)

/-- The handle of an object of this side: that of its singleton, or an export. -/
def refer (channel : Channel) (service : ServiceRef) : RemoteHandle × Channel :=
  match channel.singletons.nameOf? service with
  | some name => (.singleton name service.interfaces, channel)
  | none =>
    let (handle, exports) := channel.exports.publish service.interfaces service
    (handle, { channel with exports })

/-- What the channel puts in place of a node on the way out. -/
def replaceNode (value : Value) (channel : Channel) : Value × Channel :=
  match value with
  | .live (.service service) =>
    let (handle, after) := channel.refer service
    (.remote handle, after)
  | .live (.proxy proxy) => (.remote proxy.handle, channel)
  | other => (other, channel)

/-- What the channel puts in place of a node on the way in. -/
def resolveNode (value : Value) (channel : Channel) : Value × Channel :=
  match value with
  | .remote handle =>
    let (object, after) := channel.resolve handle
    (.live object, after)
  | other => (other, channel)

/-- The channel's own stage, which comes last on the way out and first on the way in. -/
def stage : Stage Channel where
  write value := fun channel => let (result, after) := replaceNode value channel; (.ok result, after)
  read value := fun channel => let (result, after) := resolveNode value channel; (.ok result, after)

/-- Makes an object callable by the peer under some of its interfaces. -/
def exportObject (channel : Channel) (interfaces : List String) (service : ServiceRef) :
    Except CallError RemoteHandle × Channel :=
  if channel.terminated then (.error .closed, channel)
  else
    match interfaces.find? fun interface => !service.interfaces.contains interface with
    | some absent => (.error (.definition s!"{service.label} does not implement {absent}"), channel)
    | none =>
      let (handle, exports) := channel.exports.publish interfaces service
      (.ok handle, { channel with exports })

/-! ## Calls -/

/-- Enters a call, unless the channel has terminated. -/
def startCall (channel : Channel) (method : Method) (callSite : String) (caller : Ticket) :
    Option (UInt64 × Channel) :=
  if channel.terminated then none
  else
    let (id, calls) := channel.calls.start method callSite caller
    some (id, { channel with calls })

/-- Completes the call with an id, if one is pending. -/
def completeCall (channel : Channel) (id : UInt64) (result : PendingCall → CallResult) :
    Channel × List ChannelEffect :=
  let (found, calls) := channel.calls.finish id
  ({ channel with calls },
    (found.map fun call => ChannelEffect.complete call.caller (result call)).toList)

/-- The message of a call could not be delivered. -/
def callUndelivered (channel : Channel) (id : UInt64) (error : PipeError) :
    Channel × List ChannelEffect :=
  channel.completeCall id fun _ => .error (.ofPipeError error)

/-- What a return means for the call that it answers. -/
def resultOf (outcome : Except RemoteError Value) (call : PendingCall) : CallResult :=
  match outcome with
  | .ok value => .ok value
  | .error error => .error (.ofRemoteError call.method call.callSite error)

/-- Takes a message of the peer.  A return that no call waits for is dropped. -/
def receive (channel : Channel) : ChannelMessage → Channel × List ChannelEffect
  | .call request => (channel, [.run request])
  | .reply id outcome => channel.completeCall id (resultOf outcome)
  | .unreadable id reason =>
    channel.completeCall id fun _ => .error (.transport (.marshal reason))

/-! ## What becomes of messages -/

/-- Why a result has to be replaced by an error: it could not be written here or not be read by the
peer.  An error that fails is not replaced. -/
def unportable? (failed : Bool) : PipeError → Option String
  | .marshal reason => if failed then none else some reason
  | .rejected _ reason => if failed then none else some reason
  | _ => none

/-- What the peer is answered in place of a result that it cannot have. -/
def unportableOutcome (reason : String) : Except RemoteError Value :=
  .error (.new RemoteError.unportableResult reason)

/-- What is to be done once it is known what has become of a message. -/
inductive Aftermath where
  | nothing
  /-- The call fails, since its message was not delivered. -/
  | fail (id : UInt64) (error : PipeError)
  /-- The peer is answered that it cannot have the result. -/
  | replace (id : UInt64) (reason : String)
  /-- The return is given up. -/
  | giveUp (id : UInt64) (error : PipeError)

/-- What has to follow when it is known what has become of a message. -/
def aftermath : Errand → Outcome → Aftermath
  | _, .ok () => .nothing
  | .call id, .error error => .fail id error
  | .reply id failed, .error error =>
    match unportable? failed error with
    | some reason => .replace id reason
    | none => .giveUp id error

/-! ## Closing -/

/-- Ends the channel: every pending call fails, and no object is known any more. -/
def terminate (channel : Channel) : Channel × List ChannelEffect :=
  let (abandoned, calls) := channel.calls.abandon
  ({ channel with
      calls
      exports := channel.exports.clear
      imports := []
      terminated := true },
    abandoned.map fun call => .complete call.caller (.error .closed))

end Channel

/-! ## Proxies -/

/-- Whether the object behind a proxy has a method, as far as its handle tells. -/
def ProxyRef.check (proxy : ProxyRef) (method : Method) : Except CallError Unit :=
  if proxy.handle.implements method.signature.interface then .ok ()
  else .error (.definition
    s!"{proxy.handle.instanceId} does not implement {method.signature.interface}")

end Courier
