import PubSub.Shared.FoldedMap
import PubSub.Shared.Run
import PubSub.Shared.DecimalText
import PubSub.Shared.Wire
import PubSub.Shared.Worker
import PubSub.SparkplugProto
import PubSub.Platform
import PubSub.Metric
import PubSub.Payload
import PubSub.PayloadHelper
import PubSub.Topic
import PubSub.Client
import PubSub.Device
import PubSub.Node
import PubSub.Receiver
import PubSub.Mqtt
import PubSub.NodeTask
import PubSub.HostTask
import PubSub.ClientTask
import PubSub.ProtobufCodec
import PubSub.FlatJson
import PubSub.Reference
import PubSub.Aliases
import PubSub.Frame
import PubSub.PublishTopics
import PubSub.Mirrors
import PubSub.NodeTopics
import PubSub.NodeSession
import PubSub.HostTopics
import PubSub.HostSession
import PubSub.OnlineConnected
import PubSub.SessionGrammar
import PubSub.DeathAnnounced
import PubSub.Isolation
import PubSub.DeviceMirror
import PubSub.AliasBinding
import PubSub.BirthReplication
import PubSub.HostMirror
import PubSub.HostWait
import PubSub.CodecSimulation
import PubSub.MessageGrammar
import PubSub.TopicNames
import PubSub.StructureFrame
import PubSub.MetricWire
import PubSub.FailedPublish
import PubSub.WrappedPayload
import PubSub.Shared.FlaggedCell
import PubSub.ValueWriters
import PubSub.ProtobufRace
import PubSub.TextRace
import PubSub.BirthDeathPairing
import PubSub.MirrorIdentity
import PubSub.HostView
import PubSub.LocalDevices
import PubSub.DeviceCommands
import PubSub.ReceivedValues
import PubSub.TextRoundTrip
import PubSub.EchoRace
import PubSub.StaleMirror
import PubSub.HostAgreement
import PubSub.AliasNumbers
import PubSub.AliasUniqueness
import PubSub.PublishCalls
import PubSub.SequenceGaps
import PubSub.TopicFields
import PubSub.DevicePolls
import PubSub.MetricFields
import PubSub.CodecAgreement
import PubSub.ChangeDetection
import PubSub.NameCache
import PubSub.Shared.Memo
import PubSub.JsonFrame
import PubSub.NestedProperties
import PubSub.Shared.Fill
import PubSub.JsonRoundTrip
import PubSub.Shared.RetryTimer
import PubSub.ConnectRate
import PubSub.ShutdownWait
import PubSub.TextCell
import PubSub.PropertyCopies
import PubSub.Shared.KeyedList
import PubSub.TopicKeys
import PubSub.MetricKeys
import PubSub.TextPayload
import PubSub.PublishSettings
import PubSub.Configuration
import PubSub.Shared.Parts
import PubSub.Parties
import PubSub.Shared.Overwrite
import PubSub.DataWrites
import PubSub.Redelivery
import PubSub.StopEnds
import PubSub.WaitDeadlines
import PubSub.Shared.Ranking
import PubSub.Shared.Fairness
import PubSub.DetectBroker
import PubSub.Shared.Replica
import PubSub.Broadcast
import PubSub.Shared.Board
import PubSub.StateTopic
import PubSub.HostLink
import PubSub.RetainedState
import PubSub.Presence
import PubSub.Shared.Recovery
import PubSub.Recovery
