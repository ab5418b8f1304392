import AwsIot.Foundation.JsonText
import AwsIot.Foundation.Levels
import AwsIot.Foundation.Memory
import AwsIot.Foundation.Peek
import AwsIot.Foundation.Program
import AwsIot.Foundation.Reader
import AwsIot.Foundation.Scanf
import AwsIot.Foundation.SlotTable
import AwsIot.Foundation.TextBuffer
import AwsIot.Foundation.Threads
import AwsIot.Foundation.Writer
import AwsIot.Linux.Countdown
import AwsIot.Linux.Timer
import AwsIot.Linux.TlsRead
import AwsIot.Linux.TlsWrapper
import AwsIot.Linux.TlsWrite
import AwsIot.Mqtt.AckCorrelation
import AwsIot.Mqtt.Answer
import AwsIot.Mqtt.AnswerDelivered
import AwsIot.Mqtt.AnswerKept
import AwsIot.Mqtt.AnswerSeen
import AwsIot.Mqtt.Api
import AwsIot.Mqtt.BackOff
import AwsIot.Mqtt.Bag
import AwsIot.Mqtt.BagDelivery
import AwsIot.Mqtt.BagRefinement
import AwsIot.Mqtt.BufferReads
import AwsIot.Mqtt.ConnectPacket
import AwsIot.Mqtt.Connection
import AwsIot.Mqtt.DeadConnection
import AwsIot.Mqtt.DeliveredStream
import AwsIot.Mqtt.Delivery
import AwsIot.Mqtt.Dispatch
import AwsIot.Mqtt.Environment
import AwsIot.Mqtt.ExactFit
import AwsIot.Mqtt.Framing
import AwsIot.Mqtt.HeldState
import AwsIot.Mqtt.KeepAlive
import AwsIot.Mqtt.LengthCodec
import AwsIot.Mqtt.LengthField
import AwsIot.Mqtt.Nesting
import AwsIot.Mqtt.NetworkTruth
import AwsIot.Mqtt.Ownership
import AwsIot.Mqtt.Packet
import AwsIot.Mqtt.PacketIds
import AwsIot.Mqtt.PacketReads
import AwsIot.Mqtt.PublishAck
import AwsIot.Mqtt.PublishPacket
import AwsIot.Mqtt.Relations
import AwsIot.Mqtt.RequestRules
import AwsIot.Mqtt.Requests
import AwsIot.Mqtt.RestingState
import AwsIot.Mqtt.Resubscribe
import AwsIot.Mqtt.SendPacket
import AwsIot.Mqtt.StableState
import AwsIot.Mqtt.StateMoves
import AwsIot.Mqtt.StatedLength
import AwsIot.Mqtt.Suback
import AwsIot.Mqtt.Subscriptions
import AwsIot.Mqtt.ThreadBodies
import AwsIot.Mqtt.ThreadCalls
import AwsIot.Mqtt.ThreadSafety
import AwsIot.Mqtt.ThreadedClient
import AwsIot.Mqtt.TopicMatching
import AwsIot.Mqtt.TransmitBuffer
import AwsIot.Mqtt.Transport
import AwsIot.Mqtt.Traversal
import AwsIot.Mqtt.Types
import AwsIot.Mqtt.Wire
import AwsIot.Mqtt.Yield
import AwsIot.Platform.TimerInterface
import AwsIot.Platform.Timers
import AwsIot.Samples.FeedHandlers
import AwsIot.Shadow.AckStatus
import AwsIot.Shadow.Api
import AwsIot.Shadow.AwaitedAnswers
import AwsIot.Shadow.Builder
import AwsIot.Shadow.BuilderBounds
import AwsIot.Shadow.BuilderDocument
import AwsIot.Shadow.BuilderMembers
import AwsIot.Shadow.ClientToken
import AwsIot.Shadow.DeltaDispatch
import AwsIot.Shadow.DeltaRegistration
import AwsIot.Shadow.DeltaVersion
import AwsIot.Shadow.Document
import AwsIot.Shadow.Indeterminate
import AwsIot.Shadow.TopicLifetimes
import AwsIot.Shadow.TopicPointers
import AwsIot.Shadow.IntegerParsers
import AwsIot.Shadow.Json
import AwsIot.Shadow.KeyMatch
import AwsIot.Shadow.LastVersion
import AwsIot.Shadow.Records
import AwsIot.Shadow.SubscribeAcks
import AwsIot.Shadow.TokenRoundTrip
import AwsIot.Shadow.TopicNames
import AwsIot.Shadow.Traversal
import AwsIot.Shadow.Types
import AwsIot.Tirtos.Countdown
import AwsIot.Tirtos.Timer
import AwsIot.Foundation.Forest
import AwsIot.Jsmn.Parser
import AwsIot.Jsmn.Machine
import AwsIot.Jsmn.Language
import AwsIot.Jsmn.Resume
import AwsIot.Shadow.BuiltDocuments
import AwsIot.Mqtt.ControlPackets
import AwsIot.Mqtt.RequestPackets
import AwsIot.Mqtt.Session
import AwsIot.Mqtt.SessionRuns
import AwsIot.Linux.TlsConnect
import AwsIot.Linux.TlsRuns
import AwsIot.Tirtos.Network
import AwsIot.Tirtos.NetworkRuns
