import TrainPP.Foundations.Checked
import TrainPP.Foundations.Runs
import TrainPP.Foundations.Traces
import TrainPP.Foundations.LastWriter
import TrainPP.Foundations.Framing
import TrainPP.Foundations.Words
import TrainPP.Foundations.Bits
import TrainPP.Foundations.Checksums
import TrainPP.Foundations.Numerals
import TrainPP.Z21.LanXCommandBase
import TrainPP.Z21.LanXReplies
import TrainPP.Z21.DataSets
import TrainPP.Z21.Client
import TrainPP.Z21.Receive
import TrainPP.Z21.Requests
import TrainPP.Z21.Session
import TrainPP.Z21.Program
import TrainPP.Protocol.Decoders
import TrainPP.Protocol.Messages
import TrainPP.Protocol.Bodies
import TrainPP.Protocol.Registers
import TrainPP.Protocol.Refinement
import TrainPP.Protocol.Kinds
import TrainPP.Protocol.ReceiveLoop
import TrainPP.Protocol.Datagrams
import TrainPP.Protocol.Parsing
import TrainPP.Properties.ReceiveSafety
import TrainPP.Properties.Delivery
import TrainPP.Properties.Status
import TrainPP.Properties.DroppedDatasets
import TrainPP.Properties.Replays
import TrainPP.Properties.HandlerObjects
import TrainPP.Properties.Modes
import TrainPP.Properties.SystemState
import TrainPP.Properties.Reordering
import TrainPP.Properties.MirroredFields
import TrainPP.Properties.Convergence
import TrainPP.Properties.ReachableStatuses
import TrainPP.Properties.StaleBytes
import TrainPP.Properties.Repacking
import TrainPP.Properties.Destinations
import TrainPP.Properties.Sessions
import TrainPP.Properties.Programs
import TrainPP.Properties.WireForm
import TrainPP.Properties.SentDatagrams
import TrainPP.Properties.Echoes
import TrainPP.Properties.BodyChecksum
import TrainPP.Properties.LocoRequests
import TrainPP.Properties.LocoInfo
import TrainPP.Properties.DecodedReplies
import TrainPP.Properties.CodecAgreement
import TrainPP.Properties.Versions
