import CallsPlugin.Verified.Table
import CallsPlugin.Verified.Prog
import CallsPlugin.Verified.Play
import CallsPlugin.Verified.Pool
import CallsPlugin.Verified.Monitor
import CallsPlugin.Verified.Discipline
import CallsPlugin.Verified.Expiring
import CallsPlugin.Verified.History
import CallsPlugin.Verified.Machine
import CallsPlugin.Verified.LockOrder
import CallsPlugin.Verified.JsonText
import CallsPlugin.Verified.Watched
import CallsPlugin.Verified.Records
import CallsPlugin.Verified.Log
import CallsPlugin.Ports.Public
import CallsPlugin.Ports.Db
import CallsPlugin.Ports.Plugin
import CallsPlugin.Ports.State
import CallsPlugin.Ports.Jobs
import CallsPlugin.Ports.Session
import CallsPlugin.Ports.Handlers
import CallsPlugin.Ports.Mutex
import CallsPlugin.Ports.LockDiscipline
import CallsPlugin.Ports.Frames
import CallsPlugin.Ports.CallLogic
import CallsPlugin.Ports.JoinPlan
import CallsPlugin.Ports.JoinAtomic
import CallsPlugin.Ports.SessionRules
import CallsPlugin.Ports.ActiveCall
import CallsPlugin.Ports.JobTable
import CallsPlugin.Ports.JobStops
import CallsPlugin.Ports.JobHandlers
import CallsPlugin.Ports.JobSessions
import CallsPlugin.Ports.JobStarts
import CallsPlugin.Ports.JobCoupling
import CallsPlugin.Ports.StartOutcome
import CallsPlugin.Ports.JobIDs
import CallsPlugin.Ports.Requests
import CallsPlugin.Ports.ScreenSharing
import CallsPlugin.Ports.ScreenTime
import CallsPlugin.Ports.CallHost
import CallsPlugin.Ports.HostChoice
import CallsPlugin.Ports.Reconnect
import CallsPlugin.Ports.HandlerSession
import CallsPlugin.Ports.Participants
import CallsPlugin.Ports.Nodes
import CallsPlugin.Ports.NodeSteps
import CallsPlugin.Ports.Pointers
import CallsPlugin.Ports.Interference
import CallsPlugin.Ports.ReconnectErrors
import CallsPlugin.Ports.SessionTable
import CallsPlugin.Ports.RtcIdentity
import CallsPlugin.Ports.ParticipantLimit
import CallsPlugin.Ports.PluginMutex
import CallsPlugin.Ports.Relay
import CallsPlugin.Ports.Mirror
import CallsPlugin.Ports.Announced
import CallsPlugin.Ports.Webapp
import CallsPlugin.Ports.Following
import CallsPlugin.Ports.Presence
import CallsPlugin.Ports.Convergence
import CallsPlugin.Ports.CoupledStops
import CallsPlugin.Ports.Audience
import CallsPlugin.Ports.WebSocketClient
import CallsPlugin.Ports.JoinOrReconnect
import CallsPlugin.Ports.SequenceNumber
import CallsPlugin.Ports.Snapshots
import CallsPlugin.Ports.ChannelEvents
import CallsPlugin.Ports.ChannelFetch
import CallsPlugin.Ports.IncomingCalls
import CallsPlugin.Verified.Order
import CallsPlugin.Ports.JobMetadata
import CallsPlugin.Ports.JobArtifacts
import CallsPlugin.Ports.ArtifactOrder
import CallsPlugin.Verified.Query
import CallsPlugin.Ports.ChannelStates
import CallsPlugin.Verified.Custody
import CallsPlugin.Ports.RtcdHosts
import CallsPlugin.Verified.Pipeline
import CallsPlugin.Ports.LastAction
import CallsPlugin.Ports.MutexConfig
import CallsPlugin.Verified.Minimum
import CallsPlugin.Ports.HostOrder
import CallsPlugin.Ports.RtcdSend
import CallsPlugin.Ports.ClientSessions
import CallsPlugin.Ports.ClientEvents
import CallsPlugin.Verified.RateBound
import CallsPlugin.Ports.ApiLimits
import CallsPlugin.Ports.StartTime
import CallsPlugin.Ports.EnvOverrides
import CallsPlugin.Verified.Calendar
import CallsPlugin.Verified.Buckets
import CallsPlugin.Ports.CallStats
import CallsPlugin.Verified.Turns
import CallsPlugin.Ports.JobPointers
import CallsPlugin.Verified.Rely
import CallsPlugin.Ports.CallEnds
import CallsPlugin.Ports.Batcher
import CallsPlugin.Ports.Batching
import CallsPlugin.Ports.BatchedWork
import CallsPlugin.Ports.GhostSessions
import CallsPlugin.Verified.Ranking
import CallsPlugin.Ports.SessionOrder
import CallsPlugin.Verified.Deeds
import CallsPlugin.Ports.BotConnections
import CallsPlugin.Ports.BotLeaves
import CallsPlugin.Verified.Solo
import CallsPlugin.Ports.StoredState
import CallsPlugin.Ports.JoinsOneByOne
import CallsPlugin.Ports.LeaveWrites
import CallsPlugin.Ports.LeavesOneByOne
import CallsPlugin.Verified.Upkeep
import CallsPlugin.Ports.Credentials
import CallsPlugin.Ports.RtcdRegistration
import CallsPlugin.Verified.Sums
import CallsPlugin.Ports.HostControls
import CallsPlugin.Ports.Configuration
import CallsPlugin.Verified.Guarantee
import CallsPlugin.Ports.ConfigOverrides
import CallsPlugin.Ports.License
import CallsPlugin.Ports.ParseIP
import CallsPlugin.Ports.ConfigFields
import CallsPlugin.Ports.ConfigHooks
import CallsPlugin.Ports.ConfigSave
import CallsPlugin.Verified.Backoff
import CallsPlugin.Ports.SessionsWarning
import CallsPlugin.Verified.Paired
import CallsPlugin.Ports.ClientConfig
import CallsPlugin.Verified.Atomic
import CallsPlugin.Ports.AtomicSections
import CallsPlugin.Verified.Announcing
import CallsPlugin.Ports.ChannelSettings
import CallsPlugin.Verified.Tasks
import CallsPlugin.Ports.Microphone
