import Courier.Bytes.Basic
import Courier.Bytes.Hex
import Courier.Bytes.Queue
import Courier.Composition.Agenda
import Courier.Composition.Basic
import Courier.Decimal.Shortest
import Courier.Envelope.Capacity
import Courier.Envelope.Reader
import Courier.Envelope.Writer
import Courier.Json.Basic
import Courier.Json.Draft
import Courier.Json.Shape
import Courier.Link.Conduit
import Courier.Link.Error
import Courier.Link.Loops
import Courier.Link.Memory
import Courier.Marshal.Chain
import Courier.Numbering
import Courier.Pipe.Basic
import Courier.Pipe.Error
import Courier.Pipe.Exchange
import Courier.Proofs.Composition.Closing
import Courier.Proofs.Composition.Endpoint
import Courier.Proofs.Composition.Occasions
import Courier.Proofs.Composition.Teardown
import Courier.Proofs.Composition.Worlds
import Courier.Proofs.Envelope.Boundaries
import Courier.Proofs.Envelope.Ending
import Courier.Proofs.Envelope.Reading
import Courier.Proofs.Json.Documents
import Courier.Proofs.Json.Floats
import Courier.Proofs.Json.Numbers
import Courier.Proofs.Json.Texts
import Courier.Proofs.Link.Interleaving
import Courier.Proofs.Link.ReadLoop
import Courier.Proofs.Marshal.Inversion
import Courier.Proofs.Marshal.Keeping
import Courier.Proofs.Numbering
import Courier.Proofs.Pipe.Allocation
import Courier.Proofs.Pipe.Alone
import Courier.Proofs.Pipe.Conservation
import Courier.Proofs.Pipe.Corruption
import Courier.Proofs.Pipe.Course
import Courier.Proofs.Pipe.Delivery
import Courier.Proofs.Pipe.Handling
import Courier.Proofs.Pipe.History
import Courier.Proofs.Pipe.Independence
import Courier.Proofs.Pipe.Joining
import Courier.Proofs.Pipe.Lifecycle
import Courier.Proofs.Pipe.Lossless
import Courier.Proofs.Pipe.Operations
import Courier.Proofs.Pipe.Overtaking
import Courier.Proofs.Pipe.Pair
import Courier.Proofs.Pipe.Passage
import Courier.Proofs.Pipe.Receiving
import Courier.Proofs.Pipe.Reliance
import Courier.Proofs.Pipe.Resuming
import Courier.Proofs.Pipe.Sending
import Courier.Proofs.Pipe.Sizes
import Courier.Proofs.Pipe.Sound
import Courier.Proofs.Pipe.Steps
import Courier.Proofs.Pipe.Transit
import Courier.Proofs.Pipe.Unbroken
import Courier.Proofs.Pipe.Underway
import Courier.Proofs.Rpc.Accounts
import Courier.Proofs.Rpc.Balance
import Courier.Proofs.Rpc.Bookkeeping
import Courier.Proofs.Rpc.Building
import Courier.Proofs.Rpc.Changes
import Courier.Proofs.Rpc.Conveying
import Courier.Proofs.Rpc.Correlation
import Courier.Proofs.Rpc.Crossing
import Courier.Proofs.Rpc.Dialogue
import Courier.Proofs.Rpc.Dispatching
import Courier.Proofs.Rpc.Exporting
import Courier.Proofs.Rpc.History
import Courier.Proofs.Rpc.Hosting
import Courier.Proofs.Rpc.Journals
import Courier.Proofs.Rpc.Journeys
import Courier.Proofs.Rpc.Messages
import Courier.Proofs.Rpc.Parameters
import Courier.Proofs.Rpc.Registries
import Courier.Proofs.Rpc.Resolution
import Courier.Proofs.Rpc.Returns
import Courier.Proofs.Rpc.RoundTrip
import Courier.Proofs.Rpc.Running
import Courier.Proofs.Rpc.Tracing
import Courier.Proofs.Rpc.Upkeep
import Courier.Proofs.Supervisor.Moments
import Courier.Proofs.Supervisor.Shutdown
import Courier.Proofs.Supervisor.Standing
import Courier.Proofs.Value.Fitting
import Courier.Proofs.Value.RoundTrip
import Courier.Proofs.Value.Shapes
import Courier.Proofs.Wire.Fragments
import Courier.Proofs.Wire.Frames
import Courier.Proofs.Wire.Grammar
import Courier.Proofs.Wire.Limits
import Courier.Proofs.Wire.Reading
import Courier.Proofs.Wire.Verdict
import Courier.Rpc.CallError
import Courier.Rpc.Calls
import Courier.Rpc.Channel
import Courier.Rpc.Desk
import Courier.Rpc.Ending
import Courier.Rpc.Message
import Courier.Rpc.Registry
import Courier.Rpc.RemoteError
import Courier.Rpc.Service
import Courier.Rpc.Signature
import Courier.Scenario.Handlers
import Courier.Scenario.Links
import Courier.Scenario.Scene
import Courier.Scenario.Schedule
import Courier.Scenario.Stages
import Courier.Scenario.Steps
import Courier.Scenario.Turns
import Courier.Scenario.World
import Courier.Settings.Basic
import Courier.Settings.Loading
import Courier.Settings.Reading
import Courier.Supervisor.Basic
import Courier.Supervisor.Script
import Courier.Tasks
import Courier.Text.Extending
import Courier.Text.Quoted
import Courier.Text.Unprintable
import Courier.Toml.Document
import Courier.Toml.Number
import Courier.Toml.Reader
import Courier.Toml.Table
import Courier.Toml.Text
import Courier.Value.Basic
import Courier.Value.Describe
import Courier.Value.Entries
import Courier.Value.Portable
import Courier.Value.Reading
import Courier.Weights
import Courier.Wire.MessageId
import Courier.Wire.Packet
import Courier.Wire.Reader
