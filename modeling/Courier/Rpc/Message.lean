import Courier.Rpc.RemoteError
import Courier.Marshal.Chain

/-!
# The messages of a channel

A call names its target, the method and the arguments; a return carries the
result or the error of the call with the same id.

A return is read in two steps.  First the message is read, with the result kept
as a document; only then the result is decoded.  So a result that cannot be
decoded still tells which call it was for, and the message reads as
`unreadable`, which is never sent.

In the interface of the runtime a `ChannelMessage` is an `RpcMessage`.
-/

namespace Courier

set_option autoImplicit false

open Json (Draft)

structure CallRequest where
  callId : UInt64
  instanceId : String
  signature : Signature
  arguments : List Value

inductive ChannelMessage where
  | call (request : CallRequest)
  | reply (callId : UInt64) (outcome : Except RemoteError Value)
  /-- A return whose result could not be decoded on this side. -/
  | unreadable (callId : UInt64) (reason : String)

/-- What a message of a channel is for: it carries a call, or the return of one with a result or
with an error. -/
inductive Errand where
  | call (id : UInt64)
  | reply (id : UInt64) (failed : Bool)
deriving DecidableEq

/-- What a message is for.  One that could not be decoded is never sent. -/
def ChannelMessage.errand : ChannelMessage → Errand
  | call request => .call request.callId
  | reply callId outcome => .reply callId (outcome matches .error _)
  | unreadable callId _ => .reply callId false

/-! ## The wire form -/

/-- A message with its values in portable form; a result stays a document. -/
inductive WireMessage where
  | call (callId : UInt64) (instanceId : String) (signature : Signature)
      (arguments : List Portable)
  | result (callId : UInt64) (document : Draft)
  | failure (callId : UInt64) (error : RemoteError)

namespace ChannelMessage

variable {σ : Type}

def callJson (callId : UInt64) (instanceId : String) (signature : Signature)
    (arguments : List Portable) : Json :=
  .object [("type", .string "call"), ("call_id", .int callId.toNat),
    ("instance_id", .string instanceId), ("method", signature.toJson),
    ("args", .array (arguments.map Portable.toJson))]

def returnJson (callId : UInt64) (outcome : String × Json) : Json :=
  .object [("type", .string "return"), ("call_id", .int callId.toNat),
    ("outcome", .object [outcome])]

/-- The JSON of a message, its values marshaled by a chain. -/
def toJson (chain : MarshalChain σ) : ChannelMessage → Marshal σ Json
  | call request => do
    let arguments ← request.arguments.mapM chain.toPortable
    return callJson request.callId request.instanceId request.signature arguments
  | reply callId (.ok value) => do
    let portable ← chain.toPortable value
    return returnJson callId ("ok", portable.toJson)
  | reply callId (.error error) => return returnJson callId ("err", error.toJson)
  | unreadable callId _ => throw (.encode s!"return {callId.toNat} was never decoded")

/-- The bytes of a message on the wire. -/
def encode (chain : MarshalChain σ) (message : ChannelMessage) : Marshal σ Bytes := do
  return (← message.toJson chain).render

end ChannelMessage

namespace WireMessage

/-- The fields of a call that have been read. -/
structure CallFields where
  callId : Option UInt64
  instanceId : Option String
  signature : Option Signature
  arguments : Option (List Portable)

def CallFields.step (fields : CallFields) (key : String) (value : Draft) :
    Except DecodeError CallFields := do
  match key with
  | "call_id" =>
    let word ← value.word
    return { fields with callId := some word }
  | "instance_id" =>
    let text ← value.text
    return { fields with instanceId := some text }
  | "method" =>
    let signature ← Signature.ofDraft value
    return { fields with signature := some signature }
  | _ =>
    let arguments ← (← value.items).mapM Portable.ofDraftAside
    return { fields with arguments := some arguments }

/-- A call from its fields. -/
def callOfDraft (draft : Draft) : Except DecodeError WireMessage := do
  let fields ← draft.foldRecord ["call_id", "instance_id", "method", "args"] CallFields.step
    ⟨none, none, none, none⟩
  match fields with
  | ⟨some callId, some instanceId, some signature, some arguments⟩ =>
    return call callId instanceId signature arguments
  | _ => throw .malformed

/-- The outcome of a call: an object whose only member is the result or the error. -/
def outcomeOfDraft : Draft → Except DecodeError (Except RemoteError Draft)
  | .object [(some "ok", document)] => .ok (.ok document)
  | .object [(some "err", draft)] => .error <$> RemoteError.ofDraft draft
  | _ => .error .malformed

/-- A return from its fields. -/
def returnOfDraft (draft : Draft) : Except DecodeError WireMessage := do
  let fields ← draft.foldRecord ["call_id", "outcome"] (fun fields key value =>
    if key = "call_id" then do
      let word ← value.word
      return (some word, fields.2)
    else do
      let outcome ← outcomeOfDraft value
      return (fields.1, some outcome))
    ((none, none) : Option UInt64 × Option (Except RemoteError Draft))
  match fields with
  | (some callId, some (.ok document)) => return result callId document
  | (some callId, some (.error error)) => return failure callId error
  | _ => throw .malformed

/-- The message of a named type from its fields. -/
def ofFields (type : String) (draft : Draft) : Except DecodeError WireMessage :=
  match type with
  | "call" => callOfDraft draft
  | "return" => returnOfDraft draft
  | _ => .error .malformed

/-- The types that an object names. -/
def typesOf (members : List (Option String × Draft)) : List Draft :=
  (members.filter fun member => member.1 = some "type").map (·.2)

/-- A message from an object that names its type once, or from an array that begins with it.  All of
it is put aside until the type is known, so all of it has to be sound. -/
def ofDraft (draft : Draft) : Except DecodeError WireMessage :=
  if draft.sound nestingLimit then
    match draft with
    | .object members =>
      match typesOf members with
      | [type] => do
        let type ← type.text
        ofFields type (.object (members.filter fun member => member.1 ≠ some "type"))
      | _ => .error .malformed
    | .array (type :: fields) => do
      let type ← type.text
      ofFields type (.array fields)
    | _ => .error .malformed
  else .error .malformed

/-- The message that bytes on the wire spell. -/
def decode (bytes : Bytes) : Except DecodeError WireMessage := do
  let (draft, ends) := Json.read bytes
  let message ← ofDraft draft
  if ends then return message else throw .malformed

end WireMessage

namespace Json.Draft

mutual

/-- A document as a table of members: of members with one key the last counts, and the members are
in the order of the keys. -/
def settled : Draft → Draft
  | array items => array (settledItems items)
  | object members => object ((Entries.ofList (settledMembers members)).map fun member =>
      (some member.1, member.2))
  | other => other

def settledItems : List Draft → List Draft
  | [] => []
  | item :: rest => settled item :: settledItems rest

def settledMembers : List (Option String × Draft) → List (String × Draft)
  | [] => []
  | (key, value) :: rest => (key.getD "", settled value) :: settledMembers rest

end

end Json.Draft

namespace ChannelMessage

variable {σ : Type}

/-- The value of a result that was kept as a document. -/
def resultValue (chain : MarshalChain σ) (document : Draft) : Marshal σ Value :=
  match Portable.ofDraft document.settled with
  | .ok portable => chain.ofPortable portable
  | .error fault => throw fault.toMarshalError

/-- A message of the wire with its values resolved by a chain. -/
def ofWire (chain : MarshalChain σ) : WireMessage → Marshal σ ChannelMessage
  | .call callId instanceId signature arguments => do
    let values ← arguments.mapM chain.ofPortable
    return call ⟨callId, instanceId, signature, values⟩
  | .failure callId error => return reply callId (.error error)
  | .result callId document =>
    tryCatch (do return reply callId (.ok (← resultValue chain document)))
      fun fault => return unreadable callId fault.message

/-- The message that bytes on the wire spell. -/
def decode (chain : MarshalChain σ) (bytes : Bytes) : Marshal σ ChannelMessage :=
  match WireMessage.decode bytes with
  | .ok message => ofWire chain message
  | .error fault => throw fault.toMarshalError

end ChannelMessage

end Courier
