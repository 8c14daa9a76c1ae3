import Telemetry.Main
import Telemetry.Node.Transmitter
import Telemetry.Link.Handle
import Telemetry.Proofs.Schema.Building
import Telemetry.Proofs.Float.Order
import Telemetry.Proofs.Float.Widening
import Telemetry.Proofs.Frame.Selection
import Telemetry.Proofs.Frame.FieldOrder
import Telemetry.Proofs.Frame.Acceptance
import Telemetry.Proofs.Frame.RoundTrip
import Telemetry.Proofs.Frame.Serialization
import Telemetry.Proofs.Frame.Overlay
import Telemetry.Proofs.Frame.Reencoding
import Telemetry.Proofs.Frame.CanonicalForm
import Telemetry.Proofs.Store.Encodable
import Telemetry.Proofs.Store.Refusals
import Telemetry.Proofs.Link.FrameWriter
import Telemetry.Proofs.Node.Writing
import Telemetry.Proofs.Node.Sending
import Telemetry.Proofs.Node.Delivery
import Telemetry.Proofs.Node.LastWriter
import Telemetry.Proofs.Frame.Draining
import Telemetry.Proofs.Node.SendOutcome
import Telemetry.Proofs.Node.Poisoning
import Telemetry.Proofs.Link.FrameReader
import Telemetry.Proofs.Link.Limits
import Telemetry.Proofs.Link.Fifo
import Telemetry.Proofs.Node.Receiving
import Telemetry.Proofs.Decimal.Shortest
import Telemetry.Proofs.Json.Number
import Telemetry.Proofs.Json.RoundTrip
import Telemetry.Proofs.Json.Members
import Telemetry.Proofs.Json.Parsed
import Telemetry.Proofs.Schema.Document
import Telemetry.Proofs.Schema.Format
import Telemetry.Proofs.Schema.Loading
import Telemetry.Proofs.Node.Snapshot
import Telemetry.Proofs.CommandLine.Encoding
import Telemetry.Proofs.CommandLine.RoundTrip
import Telemetry.Proofs.Schema.Interleaving
import Telemetry.Proofs.Node.Ticking
import Telemetry.Proofs.Node.Counting
import Telemetry.Proofs.Node.Effects
import Telemetry.Proofs.Node.PacketCounter
import Telemetry.Proofs.Store.Setting
import Telemetry.Proofs.Frame.Quantization
import Telemetry.Proofs.CommandLine.Restoring
import Telemetry.Proofs.Text.Hex
import Telemetry.Proofs.CommandLine.UpdateMarks
import Telemetry.Proofs.CommandLine.Transmitting
