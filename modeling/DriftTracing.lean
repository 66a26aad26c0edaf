import DriftTracing.Guarantees.DatagramReaction
import DriftTracing.Guarantees.TimeBase
import DriftTracing.Guarantees.UnmatchedAckacks
import DriftTracing.Guarantees.ReplyRuns
import DriftTracing.Protocol.Matching
import DriftTracing.Protocol.RttSign
import DriftTracing.Protocol.Progress
import DriftTracing.Protocol.ClockDrift
import DriftTracing.Guarantees.DriftRate
import DriftTracing.Guarantees.PacketCodec
import DriftTracing.Guarantees.AckHistory
import DriftTracing.Guarantees.RttEstimate
import DriftTracing.Guarantees.SmoothedRtt
import DriftTracing.Guarantees.DriftSamples
import DriftTracing.Guarantees.OfflineModel
import DriftTracing.Guarantees.OfflineDrift
import DriftTracing.Guarantees.UncorrectedDrift
import DriftTracing.Guarantees.TraceFile
import DriftTracing.Guarantees.UriRoundTrip
import DriftTracing.Guarantees.UriQuery
import DriftTracing.Guarantees.PrintedTime
import DriftTracing.Guarantees.BindPort
import DriftTracing.Guarantees.SocketSetup
import DriftTracing.Guarantees.OverdriftModes
import DriftTracing.Guarantees.UptimeRange
import DriftTracing.Protocol.PlottedDrift
