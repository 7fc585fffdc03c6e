import Courier.Numbering
import Courier.Pipe.Exchange
import Courier.Rpc.CallError
import Courier.Value.Basic

/-!
# The table of pending calls

A call is entered under an id that no pending call has, and leaves the table
with the one event that completes it: a return with its id, the failure to
deliver it, or the closing of the channel.  Whatever arrives later for the same
id finds no call.
-/

namespace Courier

set_option autoImplicit false

/-- What a caller gets. -/
abbrev CallResult := Except CallError Value

/-- A call without a result. -/
structure PendingCall where
  id : UInt64
  method : Method
  /-- Where in the caller's program the call was made. -/
  callSite : String
  /-- Who waits for the result. -/
  caller : Ticket
deriving DecidableEq

structure CallTable where
  nextId : UInt64
  pending : List PendingCall
deriving DecidableEq

namespace CallTable

/-- Ids are given out from one on. -/
def new : CallTable := ⟨1, []⟩

/-- The ids of the pending calls. -/
def busyIds (table : CallTable) : List UInt64 := table.pending.map (·.id)

/-- Enters a call under the next free id. -/
def start (table : CallTable) (method : Method) (callSite : String) (caller : Ticket) :
    UInt64 × CallTable :=
  let id := Numbering.firstFree (· + 1) table.busyIds table.nextId
  (id, ⟨id + 1, table.pending ++ [⟨id, method, callSite, caller⟩]⟩)

/-- The pending call with an id. -/
def pending? (table : CallTable) (id : UInt64) : Option PendingCall :=
  table.pending.find? fun call => call.id = id

/-- Takes the call with an id out of the table. -/
def finish (table : CallTable) (id : UInt64) : Option PendingCall × CallTable :=
  (table.pending? id, { table with pending := table.pending.filter fun call => call.id ≠ id })

/-- Takes all calls out of the table. -/
def abandon (table : CallTable) : List PendingCall × CallTable :=
  (table.pending, { table with pending := [] })

end CallTable

end Courier
