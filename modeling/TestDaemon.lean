import TestDaemon.Execution
import TestDaemon.Text.Quoted
import TestDaemon.Dictionary
import TestDaemon.Reply
import TestDaemon.Frame
import TestDaemon.Dispatch
import TestDaemon.Command
import TestDaemon.TestResult
import TestDaemon.Connection.Interleaving
import TestDaemon.Server.Concurrency
import TestDaemon.Zip.Writer
import TestDaemon.Archive.Extraction
import TestDaemon.Binary64.Shortest
import TestDaemon.Json.Number
import TestDaemon.Json.Skipping
import TestDaemon.Timestamp.Parser
import TestDaemon.TestResult.Decoder
import TestDaemon.Toml.Document
import TestDaemon.Client.Canned
import TestDaemon.Client.Operation
import TestDaemon.Client.Serving
import TestDaemon.CommandLine.Control
import TestDaemon.CommandLine.Daemon
import TestDaemon.Main
import TestDaemon.Proofs.ReplyLines
import TestDaemon.Proofs.Undeploying
import TestDaemon.Proofs.StopRequests
import TestDaemon.Proofs.ServerHistory
import TestDaemon.Proofs.Quiescence
import TestDaemon.Proofs.LockedTask
import TestDaemon.Proofs.Desertion
import TestDaemon.Proofs.Linearizability
import TestDaemon.Proofs.Independence
import TestDaemon.Proofs.StopAcknowledgement
import TestDaemon.Proofs.Interruption
import TestDaemon.Proofs.Confinement
import TestDaemon.Proofs.SafePaths
import TestDaemon.Proofs.NamedTests
import TestDaemon.Proofs.ErrorContainment
import TestDaemon.Proofs.LaunchedFile
import TestDaemon.Proofs.TestProcess
import TestDaemon.Proofs.ImportedPaths
import TestDaemon.Proofs.CommentCommands
import TestDaemon.Proofs.SearchMemory
import TestDaemon.Proofs.TestRun
import TestDaemon.Proofs.RememberedDeployment
import TestDaemon.Proofs.ConnectAttempts
import TestDaemon.Proofs.CarriedBytes
import TestDaemon.Proofs.SettingsRange
import TestDaemon.Proofs.StoreMap
