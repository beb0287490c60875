import ClusterChat.Library.ConsecutiveRun
import ClusterChat.Json
import ClusterChat.Library.SortedMap
import ClusterChat.Library.Transducer
import ClusterChat.Orderer.Channel
import ClusterChat.Orderer.ChannelRun
import ClusterChat.Orderer.Guarantees
import ClusterChat.Orderer.Batch
import ClusterChat.Client.Login
import ClusterChat.Server.OfflineMessages
import ClusterChat.EndToEnd.OfflineDelivery
import ClusterChat.Library.Process
import ClusterChat.Redis.Client
import ClusterChat.Redis.Sequence
import ClusterChat.Server.Crypto
import ClusterChat.Server.Database
import ClusterChat.Server.ChatService
import ClusterChat.Library.Transition
import ClusterChat.Server.Cluster
import ClusterChat.Server.Sessions
import ClusterChat.Server.World
import ClusterChat.Server.Handover
import ClusterChat.Server.Departure
import ClusterChat.Server.Routing
import ClusterChat.Client.Receive
import ClusterChat.Server.ChatRun
import ClusterChat.EndToEnd.Numbering
import ClusterChat.Orderer.Independence
import ClusterChat.Client.Loop
import ClusterChat.Client.Timeouts
import ClusterChat.Client.Silence
import ClusterChat.Frame
import ClusterChat.Server.FrameLoop
import ClusterChat.Client.FrameLoop
import ClusterChat.EndToEnd.FrameCodec
import ClusterChat.Server.ClusterEvents
import ClusterChat.Server.Shutdown
import ClusterChat.Server.Subscriptions
import ClusterChat.Library.Trace
import ClusterChat.Server.History
import ClusterChat.Server.WriteOrder
import ClusterChat.Server.DuplicateLogin
import ClusterChat.Server.LoginProgress
import ClusterChat.Server.IoLoops
import ClusterChat.Server.AnswerFirst
import ClusterChat.Server.Numbers
import ClusterChat.JsonText
import ClusterChat.Server.Payloads
import ClusterChat.Server.Copies
import ClusterChat.Library.StableSort
import ClusterChat.Server.OfflineSort
import ClusterChat.Server.Narrowing
import ClusterChat.Client.Render
import ClusterChat.EndToEnd.Rendering
import ClusterChat.Server.FanOut
import ClusterChat.Server.Fetch
import ClusterChat.Library.Session
import ClusterChat.Server.GroupCreation
import ClusterChat.Server.ConnectionPool
import ClusterChat.JsonParse.NullCharacter
import ClusterChat.Server.BadFrames
import ClusterChat.Library.Unwinding
import ClusterChat.Library.FreshNames
import ClusterChat.Library.FilteredList
import ClusterChat.Server.Indifference
import ClusterChat.Server.Unseen
import ClusterChat.Server.NoSession
import ClusterChat.Server.LeftOutIds
import ClusterChat.Server.WithoutConnection
import ClusterChat.JsonSize
import ClusterChat.Server.FrameSizes
import ClusterChat.Server.SentFrames
import ClusterChat.ConversationIds
import ClusterChat.Orderer.Duplicates
import ClusterChat.Server.PoolWaiting
import ClusterChat.Server.ProducerRest
import ClusterChat.Server.IdleClock
import ClusterChat.Client.Commands
import ClusterChat.Server.PasswordCheck
import ClusterChat.Client.MainMenu
import ClusterChat.Library.Journal
import ClusterChat.Server.Directory
import ClusterChat.Server.Evidence
import ClusterChat.Server.Privacy
import ClusterChat.Server.Requests
import ClusterChat.JsonParse.Grammar
import ClusterChat.JsonParse.Printed
import ClusterChat.JsonParse.RoundTrip
import ClusterChat.Client.LoginResponse
import ClusterChat.Client.Session
import ClusterChat.EndToEnd.LoginAnswer
import ClusterChat.EndToEnd.TypedChat
import ClusterChat.Client.Console
import ClusterChat.Client.Program
import ClusterChat.EndToEnd.Network
import ClusterChat.EndToEnd.Discipline
import ClusterChat.EndToEnd.CommandFrames
import ClusterChat.Library.LastWriter
import ClusterChat.Server.LoadConfig
