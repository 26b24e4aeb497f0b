import NetFlow.Config.Document
import NetFlow.Header.Edit
import NetFlow.Packet.Decoder
import NetFlow.Packet.Document
import NetFlow.Protocol
import NetFlow.Proofs.Text.Numerals
import NetFlow.Proofs.Text.Dotted
import NetFlow.Proofs.Text.Binary64
import NetFlow.Proofs.Wire.Delivery
import NetFlow.Proofs.Wire.Digits
import NetFlow.Proofs.Wire.Ending
import NetFlow.Proofs.Wire.Format
import NetFlow.Proofs.Wire.Position
import NetFlow.Proofs.Wire.Tiling
import NetFlow.Proofs.Document.Reading
import NetFlow.Proofs.Document.Members
import NetFlow.Proofs.Document.Leaving
import NetFlow.Proofs.Json.Quoting
import NetFlow.Proofs.Json.Lexing
import NetFlow.Proofs.Json.RoundTrip
import NetFlow.Proofs.Json5.Quoting
import NetFlow.Proofs.Json5.Lexing
import NetFlow.Proofs.Record.WireForm
import NetFlow.Proofs.Record.RoundTrip
import NetFlow.Proofs.Record.Shortfall
import NetFlow.Proofs.Record.Image
import NetFlow.Proofs.Record.Document
import NetFlow.Proofs.Record.Sequence
import NetFlow.Proofs.Packet.Body
import NetFlow.Proofs.Packet.Verdict
import NetFlow.Proofs.Packet.Decoding
import NetFlow.Proofs.Packet.Datagram
import NetFlow.Proofs.Packet.Build
import NetFlow.Proofs.Packet.RoundTrip
import NetFlow.Proofs.Packet.AnySource
import NetFlow.Proofs.Packet.Stream
import NetFlow.Proofs.Packet.Document
import NetFlow.Proofs.Packet.Trailing
import NetFlow.Proofs.Packet.Consumption
import NetFlow.Proofs.Packet.Filtering
import NetFlow.Proofs.Packet.Stages
import NetFlow.Proofs.Packet.Appending
import NetFlow.Proofs.Config.Document
import NetFlow.Proofs.Config.Validation
import NetFlow.Proofs.Config.Parsing
import NetFlow.Proofs.Config.Usable
import NetFlow.Proofs.Header.Editing
import NetFlow.Proofs.Packet.Accessors
import NetFlow.Proofs.Packet.Log
import NetFlow.Proofs.Text.Flow
