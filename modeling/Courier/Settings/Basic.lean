/-!
# Settings

What can be set of a pipe, of the framing of a stream, of a channel and of an
agent, with the values that hold where nothing is set.

Settings are kept as they were given; a value out of bounds is brought within
them where it is used.

In the interface of the runtime they are a `TetherConfig`.
-/

namespace Courier

set_option autoImplicit false

structure PipeSettings where
  /-- How many messages may be without a final answer before a further one is refused. -/
  maxInFlight : Nat
  /-- The longest packet body that is taken from a stream. -/
  maxPacketBytes : Nat
  /-- Whether the pipe outlives its stream and waits for another one. -/
  reconnect : Bool
deriving DecidableEq

namespace PipeSettings

def standard : PipeSettings := ⟨4096, 16 * 1024 * 1024, true⟩

/-- However many messages in flight are asked for, there are far fewer than there are ids. -/
def inFlightCeiling : Nat := 0x100000

/-- The limit in force: at least one message, and at most the ceiling. -/
def inFlightLimit (settings : PipeSettings) : Nat :=
  max 1 (min settings.maxInFlight inFlightCeiling)

theorem inFlightLimit_pos (settings : PipeSettings) : 0 < settings.inFlightLimit := by
  unfold inFlightLimit
  omega

theorem inFlightLimit_le (settings : PipeSettings) : settings.inFlightLimit ≤ inFlightCeiling := by
  unfold inFlightLimit inFlightCeiling
  omega

end PipeSettings

structure EnvelopeSettings where
  /-- The size of a chunk; it is brought within what two bytes can tell. -/
  chunkCapacity : Nat
deriving DecidableEq

def EnvelopeSettings.standard : EnvelopeSettings := ⟨8192⟩

structure RpcSettings where
  /-- After how many milliseconds a waiting caller looks again whether the channel is alive. -/
  livenessMillis : Nat
deriving DecidableEq

namespace RpcSettings

def standard : RpcSettings := ⟨500⟩

/-- The interval in force, which is never zero. -/
def livenessInterval (settings : RpcSettings) : Nat := max settings.livenessMillis 1

end RpcSettings

structure AgentSettings where
  /-- How an agent is reached: over its standard streams, or by listening or connecting. -/
  transport : String
  /-- Where to listen or connect to. -/
  address : String
  /-- Whether the agent's stream carries envelopes. -/
  envelope : Bool
deriving DecidableEq

def AgentSettings.standard : AgentSettings := ⟨"stdio", "127.0.0.1:7300", true⟩

structure Settings where
  pipe : PipeSettings
  envelope : EnvelopeSettings
  rpc : RpcSettings
  agent : AgentSettings
deriving DecidableEq

def Settings.standard : Settings :=
  ⟨.standard, .standard, .standard, .standard⟩

end Courier
