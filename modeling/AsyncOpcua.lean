import AsyncOpcua.Subscriptions.Expiry
import AsyncOpcua.Subscriptions.EarlyExpiry
import AsyncOpcua.Subscriptions.KeepAlive
import AsyncOpcua.Subscriptions.PublishLoop
import AsyncOpcua.Subscriptions.Cleanup
import AsyncOpcua.Subscriptions.RetransmissionOwners
import AsyncOpcua.Subscriptions.DelayedSamples
import AsyncOpcua.Subscriptions.QueueBound
import AsyncOpcua.Comms.TcpCodec
import AsyncOpcua.Subscriptions.IndexedCalls
import AsyncOpcua.Comms.SendBuffer
import AsyncOpcua.Comms.Framing
import AsyncOpcua.Subscriptions.TransferNumbers
import AsyncOpcua.Alarms.Retain
import AsyncOpcua.Pubsub.Fragments
import AsyncOpcua.Pubsub.Secured
import AsyncOpcua.Pubsub.Replay
import AsyncOpcua.Pubsub.AppliedDataSets
import AsyncOpcua.Pubsub.Convergence
import AsyncOpcua.Safety.SafetyValidator
import AsyncOpcua.Client.EventLoopState
import AsyncOpcua.Client.PublishLimits
import AsyncOpcua.Client.Delivered
import AsyncOpcua.Client.Answered
import AsyncOpcua.Client.Recreated
import AsyncOpcua.View.PagedBrowse
import AsyncOpcua.View.BrowseNameIndex
import AsyncOpcua.Subscriptions.TickMessages
import AsyncOpcua.Subscriptions.SemanticsChange
import AsyncOpcua.Subscriptions.FilterParsing
import AsyncOpcua.Aggregates.PrunedBuffer
import AsyncOpcua.Gds.PushRuns
import AsyncOpcua.Crypto.ChainOrder
import AsyncOpcua.Comms.BodyReads
import AsyncOpcua.Comms.PaddingFormats
import AsyncOpcua.Subscriptions.ResentValues
import AsyncOpcua.Subscriptions.RingDrain
import AsyncOpcua.Types.ParentIds
import AsyncOpcua.Nodes.ThreeValued
import AsyncOpcua.Types.NumericRange
import AsyncOpcua.Types.DateTime
import AsyncOpcua.Types.NodeIdText
import AsyncOpcua.Sessions.Refused
import AsyncOpcua.Alarms.LimitModes
import AsyncOpcua.Alarms.Shelving
import AsyncOpcua.Nodes.TypeMaps
import AsyncOpcua.Aggregates.TiledRanges
import AsyncOpcua.History.Kept
import AsyncOpcua.Nodes.SelectClauses
