import PodRunner.Api.Deletion
import PodRunner.Api.Exchange
import PodRunner.Api.ExecStatus
import PodRunner.Api.Object.Container
import PodRunner.Api.Object.Metadata
import PodRunner.Api.Object.Pod
import PodRunner.Api.Object.Scheduling
import PodRunner.Api.Object.Security
import PodRunner.Api.Object.Status
import PodRunner.Api.Object.Volume
import PodRunner.Api.Session
import PodRunner.Api.Shape
import PodRunner.Api.State
import PodRunner.Api.Streaming
import PodRunner.Cluster.Polling
import PodRunner.Cluster.Task
import PodRunner.Cluster.World
import PodRunner.CommandLine.Arguments
import PodRunner.CommandLine.JobFile
import PodRunner.CommandLine.Run
import PodRunner.Config
import PodRunner.Connection.AccessFile
import PodRunner.Connection.Connect
import PodRunner.Connection.Credentials
import PodRunner.Connection.Der
import PodRunner.Connection.Pem
import PodRunner.Decimal.Binary64
import PodRunner.Decimal.Shortest
import PodRunner.Decode
import PodRunner.Error
import PodRunner.Executor
import PodRunner.Job
import PodRunner.Job.Options
import PodRunner.Job.Shell
import PodRunner.Job.Variable
import PodRunner.Json.Number
import PodRunner.Json.Reader
import PodRunner.Json.Writer
import PodRunner.Machine
import PodRunner.Main
import PodRunner.Pod.Container
import PodRunner.Pod.Name
import PodRunner.Pod.Phase
import PodRunner.Pod.Spec
import PodRunner.Polling
import PodRunner.Quantity
import PodRunner.Registry
import PodRunner.Text.Base64
import PodRunner.Text.Blank
import PodRunner.Text.HostName
import PodRunner.Text.Parts
import PodRunner.Text.Printable
import PodRunner.Text.Query
import PodRunner.Text.Quoted
import PodRunner.Text.SipHash
import PodRunner.Text.Uri
import PodRunner.Text.Utf8
import PodRunner.Timestamp
import PodRunner.Trace
import PodRunner.Value
import PodRunner.Yaml.Cursor
import PodRunner.Yaml.Document
import PodRunner.Yaml.Node
import PodRunner.Yaml.Plain
import PodRunner.Yaml.Scalar
import PodRunner.Yaml.Source
import PodRunner.Yaml.Token
import PodRunner.Yaml.Tree
import PodRunner.Proofs.History
import PodRunner.Proofs.Operations
import PodRunner.Proofs.Ledger
import PodRunner.Proofs.CallOrder
import PodRunner.Proofs.Ownership
import PodRunner.Proofs.Secrecy
import PodRunner.Proofs.FailedPreparation
import PodRunner.Proofs.Outcome
import PodRunner.Proofs.Timeline
import PodRunner.Proofs.Abort
import PodRunner.Proofs.FailedDeletion
import PodRunner.Proofs.Trimming
import PodRunner.Proofs.Privilege
import PodRunner.Proofs.AbortedCreation
import PodRunner.Proofs.BoundedPolling
import PodRunner.Proofs.JobCourse
import PodRunner.Proofs.Delivery
import PodRunner.Proofs.Stem
import PodRunner.Proofs.NameShape
import PodRunner.Proofs.QuantityGrammar
import PodRunner.Proofs.QuantityPattern
import PodRunner.Proofs.LimitSet
import PodRunner.Proofs.Images
import PodRunner.Proofs.PollingBudget
import PodRunner.Proofs.Runners
import PodRunner.Proofs.Settings
import PodRunner.Proofs.Options
import PodRunner.Proofs.StuckImages
import PodRunner.Proofs.Environment
import PodRunner.Proofs.ExitCode
import PodRunner.Proofs.Labels
import PodRunner.Proofs.LossyText
import PodRunner.Proofs.SharedOutput
