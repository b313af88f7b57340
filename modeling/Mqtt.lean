import Mqtt.Main
import Mqtt.Packet.Text
import Mqtt.Wire.FixedHeader
import Mqtt.Proofs.Wire.VarLength
import Mqtt.Proofs.Wire.Field
import Mqtt.Proofs.Wire.Connect
import Mqtt.Proofs.Wire.Publish
import Mqtt.Proofs.Wire.Packet
import Mqtt.Proofs.Wire.Lengths
import Mqtt.Proofs.Wire.Canonical
import Mqtt.Proofs.Wire.Header
import Mqtt.Proofs.PacketId
import Mqtt.Proofs.Decoder.Joining
import Mqtt.Proofs.Decoder.Runs
import Mqtt.Proofs.Decoder.Segments
import Mqtt.Proofs.Decoder.Frames
import Mqtt.Proofs.Decoder.RoundTrip
import Mqtt.Proofs.Decoder.Cuttings
import Mqtt.Proofs.Decoder.Limits
import Mqtt.Proofs.Decoder.Parcels
import Mqtt.Proofs.Decoder.Harvest
import Mqtt.Proofs.Decoder.Messages
import Mqtt.Proofs.Encoder
import Mqtt.Proofs.Encoder.Calls
import Mqtt.Proofs.Outbox.Operations
import Mqtt.Proofs.Outbox.Cache
import Mqtt.Proofs.Ledger.Moves
import Mqtt.Proofs.Ledger.Records
import Mqtt.Proofs.Ledger.Tally
import Mqtt.Proofs.Ledger.Fates
import Mqtt.Proofs.Ledger.Numbering
import Mqtt.Proofs.Ledger.Staleness
import Mqtt.Proofs.Ledger.Refusals
import Mqtt.Proofs.Ledger.Order
import Mqtt.Proofs.Session.Chronicle
import Mqtt.Proofs.Session.Story
import Mqtt.Proofs.Session.Requests
import Mqtt.Proofs.Session.Writes
import Mqtt.Proofs.Session.Conduct
import Mqtt.Proofs.Session.Reactions
import Mqtt.Proofs.Session.Reception
import Mqtt.Proofs.Session.Replies
import Mqtt.Proofs.Client.Scene
import Mqtt.Proofs.Client.Steps
import Mqtt.Proofs.Client.Errands
import Mqtt.Proofs.Client.Keeping
import Mqtt.Proofs.Client.Answers
import Mqtt.Proofs.Client.Turns
import Mqtt.Proofs.Client.Completions
import Mqtt.Proofs.Client.Ownership
import Mqtt.Proofs.Client.Numbering
import Mqtt.Proofs.Client.Connections
import Mqtt.Proofs.Client.Failures
import Mqtt.Proofs.Client.Isolation
import Mqtt.Proofs.Session.Endings
import Mqtt.Proofs.Session.Clock
import Mqtt.Proofs.Session.KeepAlive
import Mqtt.Proofs.Session.Punctuality
import Mqtt.Proofs.Listeners
import Mqtt.Proofs.Client.Abiding
import Mqtt.Proofs.Client.House
import Mqtt.Proofs.Client.Lifecycle
import Mqtt.Proofs.Client.Deadlines
import Mqtt.Proofs.Topic
import Mqtt.Proofs.Wire.Prefixes
import Mqtt.Proofs.Decoder.Headers
import Mqtt.Proofs.Decoder.Machine
import Mqtt.Proofs.Decoder.Loop
import Mqtt.Proofs.Encoder.Validation
import Mqtt.Proofs.Client.Errors
