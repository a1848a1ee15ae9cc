import SpaceApp.Gateway.Router.Selection
import SpaceApp.Gateway.Router.Completeness
import SpaceApp.Foundation.Regex
import SpaceApp.Gateway.Router.Limits
import SpaceApp.Gateway.Router.Soundness
import SpaceApp.Foundation.Reach
import SpaceApp.Gateway.Accounts.Pool
import SpaceApp.Gateway.Codex.PickAccount
import SpaceApp.Foundation.BlockReader
import SpaceApp.Gateway.Codex.Interleaving
import SpaceApp.Foundation.Json
import SpaceApp.Gateway.Antigravity.Stream
import SpaceApp.Gateway.Claude.Stream
import SpaceApp.Gateway.Codex.Chat
import SpaceApp.Gateway.Codex.ChatAgreement
import SpaceApp.Gateway.Antigravity.Chunking
import SpaceApp.Gateway.Chunking
import SpaceApp.Foundation.Loop
import SpaceApp.Gateway.Codex.Proxy
import SpaceApp.Gateway.Codex.ProxyStream
import SpaceApp.Gateway.Codex.Answers
import SpaceApp.Gateway.Codex.Failover
import SpaceApp.Foundation.Exec
import SpaceApp.Maintenance.Restore
import SpaceApp.Maintenance.RestoreSteps
import SpaceApp.Maintenance.RestoreTruth
import SpaceApp.Foundation.Narrowing
import SpaceApp.Gateway.Router.Steadiness
import SpaceApp.Gateway.Accounts.StickyStore
import SpaceApp.Gateway.Accounts.ReadYourWrites
import SpaceApp.Gateway.Accounts.InFlight
import SpaceApp.Gateway.Accounts.BlockLifting
import SpaceApp.Foundation.Calendar
import SpaceApp.Gateway.Claude.ApiBudget
import SpaceApp.Gateway.Accounts.Credentials
import SpaceApp.Gateway.Accounts.CredentialRaces
import SpaceApp.Foundation.Dialogue
import SpaceApp.Plans.Execution
import SpaceApp.Plans.Controller
import SpaceApp.Plans.Fleet
import SpaceApp.Plans.Progress
import SpaceApp.Plans.Patches
import SpaceApp.Plans.Conduct
import SpaceApp.Plans.Steps
import SpaceApp.Plans.Turns
import SpaceApp.Plans.Starts
import SpaceApp.Plans.Answering
import SpaceApp.Plans.Runs
import SpaceApp.Plans.Events
import SpaceApp.Plans.Resuming
import SpaceApp.Plans.Sends
import SpaceApp.Plans.Guarantees
import SpaceApp.Plans.Reached
import SpaceApp.Gateway.Accounts.Rejections
import SpaceApp.Gateway.Claude.UpstreamFailure
import SpaceApp.Gateway.Claude.Proxy
import SpaceApp.Gateway.Claude.Answers
import SpaceApp.Gateway.Claude.BoundedWork
import SpaceApp.Plans.PauseConduct
import SpaceApp.Plans.PauseTurns
import SpaceApp.Plans.PauseRuns
import SpaceApp.Plans.PauseEvents
import SpaceApp.Plans.Paused
import SpaceApp.Api.Setup.Catalog
import SpaceApp.Api.Setup.State
import SpaceApp.Api.Setup.Coordinator
import SpaceApp.Api.Setup.Requests
import SpaceApp.Api.Setup.Runs
import SpaceApp.Api.Setup.ActiveRuns
import SpaceApp.Api.Setup.FinishedRuns
import SpaceApp.Api.Setup.Dependencies
import SpaceApp.Api.Setup.EventCursors
import SpaceApp.Api.Setup.MovingRuns
import SpaceApp.Foundation.Disk
import SpaceApp.Foundation.Triple
import SpaceApp.Memory.Mutation
import SpaceApp.Memory.Evidence
import SpaceApp.Memory.Executions
import SpaceApp.Memory.Journals
import SpaceApp.Memory.Outcomes
import SpaceApp.Memory.Recovery
import SpaceApp.Vault.Broker
import SpaceApp.Vault.Pieces
import SpaceApp.Vault.Fills
import SpaceApp.Vault.Signups
import SpaceApp.Releases.Approvals
import SpaceApp.Releases.QueueGrants
import SpaceApp.Memory.FileLock
import SpaceApp.Nous.GoalWakes
import SpaceApp.Releases.GrantRuns
import SpaceApp.Nous.HeldDispatch
import SpaceApp.Nous.HeldQueues
import SpaceApp.Nous.HeldTexts
import SpaceApp.AppServer.ManagedTurn
import SpaceApp.AppServer.TurnEvidence
import SpaceApp.Vault.Protection
import SpaceApp.Vault.Fences
import SpaceApp.Worker.RoomSupervisor
import SpaceApp.Worker.SupervisorTurns
import SpaceApp.Worker.SupervisorRuns
import SpaceApp.Worker.SupervisorProgress
import SpaceApp.AppServer.Multiplexer
import SpaceApp.AppServer.Routes
import SpaceApp.AppServer.RoutedRuns
import SpaceApp.AppServer.ThreadScenes
import SpaceApp.AppServer.ThreadGuards
import SpaceApp.AppServer.ThreadRuns
import SpaceApp.Api.StaleCache
import SpaceApp.Api.StaleRuns
import SpaceApp.Gateway.Compression.Pool
import SpaceApp.Gateway.Compression.PoolRuns
import SpaceApp.Gateway.Handoff
import SpaceApp.Chess.RoundRobin
import SpaceApp.Chess.SwissRounds
import SpaceApp.Chess.Rules
import SpaceApp.Chess.Games
import SpaceApp.Chess.Standings
import SpaceApp.Chess.Runner
import SpaceApp.Chess.RunnerControl
import SpaceApp.Chess.RunnerGames
import SpaceApp.Chess.RunnerRuns
import SpaceApp.Chess.RunnerSafety
import SpaceApp.Chess.ProviderSlots
import SpaceApp.Foundation.Folds
import SpaceApp.Foundation.TextLines
import SpaceApp.Gateway.Accounts.BlockEnds
import SpaceApp.Gateway.Compression.Lossless
import SpaceApp.Gateway.Compression.RunsAndBlocks
import SpaceApp.Gateway.Compression.Listings
import SpaceApp.Foundation.JsonGrammar
import SpaceApp.Gateway.Compression.CrusherJson
import SpaceApp.Gateway.Compression.CrusherWriters
import SpaceApp.Arena.Scoring
import SpaceApp.Arena.Simulation
import SpaceApp.Arena.Fairness
import SpaceApp.Arena.Turns
import SpaceApp.Arena.Rounds
import SpaceApp.Databases.Sql
import SpaceApp.Databases.Csv
import SpaceApp.Databases.RoundTrips
import SpaceApp.Databases.Connections
import SpaceApp.Databases.Reimports
import SpaceApp.Databases.UserMode
import SpaceApp.Gateway.Compression.MixedContent
import SpaceApp.Gateway.Compression.MixedSplice
import SpaceApp.Gateway.Compression.Fingerprints
import SpaceApp.Gateway.PendingUsage
import SpaceApp.Schedules.WallTimes
import SpaceApp.Schedules.NextRun
import SpaceApp.Api.Versions
import SpaceApp.Gateway.Compression.DiffTotals
import SpaceApp.Gateway.Compression.DiffChanges
import SpaceApp.Gateway.Compression.DiffShown
import SpaceApp.Gateway.Codex.ChatStream
import SpaceApp.Worker.Continuations
import SpaceApp.Api.ProductFindings
import SpaceApp.Api.RolloutReader
import SpaceApp.Maintenance.Launcher
import SpaceApp.Api.MailHistory
import SpaceApp.Api.WorktreeRegistry
