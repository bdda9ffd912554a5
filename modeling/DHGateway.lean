import DHGateway.Client.Amqp
import DHGateway.Client.Business
import DHGateway.Client.ChannelTrust
import DHGateway.Client.Confirmed
import DHGateway.Client.Connections
import DHGateway.Client.Consumer
import DHGateway.Client.ConsumerCount
import DHGateway.Client.Envelopes
import DHGateway.Client.Heartbeat
import DHGateway.Client.Held
import DHGateway.Client.MsgIds
import DHGateway.Client.PublicQueue
import DHGateway.Client.RabbitmqClient
import DHGateway.Client.ReconnectDepth
import DHGateway.Client.SignIn
import DHGateway.Common
import DHGateway.Core.ByteMem
import DHGateway.Core.Calendar
import DHGateway.Core.CondEvent
import DHGateway.Core.Confirms
import DHGateway.Core.DigitOrder
import DHGateway.Core.EventQueue
import DHGateway.Core.Handles
import DHGateway.Core.Interleaved
import DHGateway.Core.LockOrder
import DHGateway.Core.MapIter
import DHGateway.Core.Program
import DHGateway.Core.Run
import DHGateway.Core.Scan
import DHGateway.Core.Settlement
import DHGateway.Core.Spawning
import DHGateway.Core.TextCodec
import DHGateway.Core.Threads
import DHGateway.Core.TokenQueue
import DHGateway.Device.Codec
import DHGateway.Device.CrashSave
import DHGateway.Device.Login
import DHGateway.Device.Registry
import DHGateway.Message.Build
import DHGateway.Message.Json
import DHGateway.Message.Parse
import DHGateway.Message.Readings
import DHGateway.Message.Shape
import DHGateway.Pool.Shutdown
import DHGateway.Pool.ThreadPool
import DHGateway.Server.Accepted
import DHGateway.Server.Announce
import DHGateway.Server.Answer
import DHGateway.Server.CameraList
import DHGateway.Server.CameraRace
import DHGateway.Server.ChannelId
import DHGateway.Server.Delete
import DHGateway.Server.DeviceIds
import DHGateway.Server.Handlers
import DHGateway.Server.LoginGuard
import DHGateway.Server.MsgQueues
import DHGateway.Server.Mutexes
import DHGateway.Server.ParserAccess
import DHGateway.Server.Pipeline
import DHGateway.Server.Playback
import DHGateway.Server.PtzStop
import DHGateway.Server.PtzTranslate
import DHGateway.Server.RecordList
import DHGateway.Server.RequestData
import DHGateway.Server.Roster
import DHGateway.Server.Routing
import DHGateway.Server.Sdk
import DHGateway.Server.SdkErrors
import DHGateway.Server.StreamKey
import DHGateway.Server.TaskThreads
import DHGateway.Server.TimeOrder
import DHGateway.Server.Workers
import DHGateway.Session.Framing
import DHGateway.Session.Interleaving
import DHGateway.Session.Leftover
import DHGateway.Session.MediaClose
import DHGateway.Session.MediaConnections
import DHGateway.Session.MediaPath
import DHGateway.Session.Ownership
import DHGateway.Session.PlayOrder
import DHGateway.Session.PlaySession
import DHGateway.Session.SessionIter
import DHGateway.Session.SessionMange
import DHGateway.Session.Speed
import DHGateway.Session.StartResult
import DHGateway.Session.StopCalls
import DHGateway.Session.StopOnce
