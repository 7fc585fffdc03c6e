import Courier.Bytes.Basic
import Courier.Settings.Reading
import Courier.Toml.Document

/-!
# Loading settings

Settings come from a file, and variables of the environment override it.  A
variable names the file; if it is not set, the file is looked for in the
directory where the user's settings are.  Where there is no file, everything
keeps its standard value.

A variable for a number that is none is passed over; one for a truth value is
false unless it says otherwise.
-/

namespace Courier

set_option autoImplicit false

/-- The variables that are set. -/
abbrev Environment := List (String × String)

/-- What is found at a path. -/
inductive FileState where
  | absent
  | directory
  | file (content : Bytes)

inductive LoadError where
  /-- There is something that cannot be read as a text. -/
  | readFailed
  /-- The text is not a document, or does not give settings. -/
  | parseFailed
deriving DecidableEq, Repr

namespace Settings

/-! ## The file -/

/-- The path to something inside a directory. -/
def inside (directory name : String) : String :=
  if directory.isEmpty || directory.endsWith "/" then directory ++ name
  else directory ++ "/" ++ name

/-- The path of the file. -/
def filePath (environment : Environment) : String :=
  let valueOf? (name : String) := Entries.get? name environment
  match valueOf? "TETHER_CONFIG" with
  | some path => path
  | none =>
    let home := (valueOf? "HOME").getD "/tmp"
    let directory := (valueOf? "XDG_CONFIG_HOME").getD (inside home ".config")
    inside (inside directory "tether") "config.toml"

/-- The settings in a file. -/
def ofFile : FileState → Except LoadError Settings
  | .absent => .ok .standard
  | .directory => .error .readFailed
  | .file content =>
    match Bytes.text? content with
    | none => .error .readFailed
    | some text =>
      match Toml.read text >>= ofEntries with
      | none => .error .parseFailed
      | some settings => .ok settings

/-! ## Overrides -/

/-- The number below 2⁶⁴ that a text spells: digits, with a plus sign or without. -/
def spelledNumber? (text : String) : Option Nat :=
  let digits := match text.toList with
    | '+' :: digits => digits
    | digits => digits
  let value := Toml.Reader.number 10 digits
  if !digits.isEmpty && digits.all Char.isDigit && decide (value < UInt64.size) then some value else none

/-- Whether a text says yes. -/
def spelledTruth (text : String) : Bool := text == "true" || text == "1"

/-- The settings with what the environment overrides. -/
def override (settings : Settings) (environment : Environment) : Settings :=
  let text (name : String) (standard : String) := (Entries.get? name environment).getD standard
  let number (name : String) (standard : Nat) :=
    (Entries.get? name environment >>= spelledNumber?).getD standard
  let truth (name : String) (standard : Bool) :=
    ((Entries.get? name environment).map spelledTruth).getD standard
  { pipe := {
      maxInFlight := number "TETHER_PIPE__MAX_IN_FLIGHT" settings.pipe.maxInFlight
      maxPacketBytes := number "TETHER_PIPE__MAX_PACKET_BYTES" settings.pipe.maxPacketBytes
      reconnect := truth "TETHER_PIPE__RECONNECT" settings.pipe.reconnect }
    envelope := {
      chunkCapacity := number "TETHER_ENVELOPE__CHUNK_CAPACITY" settings.envelope.chunkCapacity }
    rpc := {
      livenessMillis := number "TETHER_RPC__LIVENESS_INTERVAL_MS" settings.rpc.livenessMillis }
    agent := {
      transport := text "TETHER_AGENT__TRANSPORT" settings.agent.transport
      address := text "TETHER_AGENT__ADDRESS" settings.agent.address
      envelope := truth "TETHER_AGENT__ENVELOPE" settings.agent.envelope } }

/-- An environment without variables overrides nothing. -/
@[simp] theorem override_nil (settings : Settings) : settings.override [] = settings := rfl

/-- Loads the settings; `look` tells what is found at a path. -/
def load (environment : Environment) (look : String → FileState) : Except LoadError Settings :=
  return (← ofFile (look (filePath environment))).override environment

end Settings

end Courier
