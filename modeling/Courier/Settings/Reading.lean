import Courier.Settings.Basic
import Courier.Toml.Table

/-!
# Settings in a document

A document has a section for each kind of settings, and a section a datum for
each setting.  What is missing keeps its standard value, what nobody asks for
is passed over, and what is there must be of the right kind.

A section is a table, or an array of the settings in their order.  A point in
time counts as a table that has none of them.
-/

namespace Courier

set_option autoImplicit false

open Toml (Datum)

namespace Toml.Datum

/-- The parts of a section by key and by place. -/
def section? : Datum → Option (String → Nat → Option Datum)
  | table entries => some fun key _ => Entries.get? key entries
  | array items => some fun _ place => items[place]?
  | moment => some fun _ _ => none
  | _ => none

def natural? : Datum → Option Nat
  | integer number => number.toNat?
  | _ => none

def bool? : Datum → Option Bool
  | bool truth => some truth
  | _ => none

def text? : Datum → Option String
  | text content => some content
  | _ => none

end Toml.Datum

/-- A setting: its standard value if nothing is there, or what is there if it is of the right
kind. -/
def setting {α : Type} (read : Datum → Option α) (standard : α) : Option Datum → Option α
  | none => some standard
  | some datum => read datum

def PipeSettings.ofDatum (datum : Datum) : Option PipeSettings := do
  let part ← datum.section?
  return {
    maxInFlight := ← setting Datum.natural? standard.maxInFlight (part "max_in_flight" 0)
    maxPacketBytes := ← setting Datum.natural? standard.maxPacketBytes (part "max_packet_bytes" 1)
    reconnect := ← setting Datum.bool? standard.reconnect (part "reconnect" 2) }

def EnvelopeSettings.ofDatum (datum : Datum) : Option EnvelopeSettings := do
  let part ← datum.section?
  return ⟨← setting Datum.natural? standard.chunkCapacity (part "chunk_capacity" 0)⟩

def RpcSettings.ofDatum (datum : Datum) : Option RpcSettings := do
  let part ← datum.section?
  return ⟨← setting Datum.natural? standard.livenessMillis (part "liveness_interval_ms" 0)⟩

def AgentSettings.ofDatum (datum : Datum) : Option AgentSettings := do
  let part ← datum.section?
  return {
    transport := ← setting Datum.text? standard.transport (part "transport" 0)
    address := ← setting Datum.text? standard.address (part "address" 1)
    envelope := ← setting Datum.bool? standard.envelope (part "envelope" 2) }

/-- The settings that a document gives. -/
def Settings.ofEntries (entries : List (String × Datum)) : Option Settings := do
  let part (key : String) := Entries.get? key entries
  return {
    pipe := ← setting PipeSettings.ofDatum .standard (part "pipe")
    envelope := ← setting EnvelopeSettings.ofDatum .standard (part "envelope")
    rpc := ← setting RpcSettings.ofDatum .standard (part "rpc")
    agent := ← setting AgentSettings.ofDatum .standard (part "agent") }

theorem Settings.ofEntries_nil : Settings.ofEntries [] = some .standard := rfl

end Courier
