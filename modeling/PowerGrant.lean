import PowerGrant.Ascending
import PowerGrant.Cluster.Api
import PowerGrant.Cluster.Pods
import PowerGrant.Cluster.Report
import PowerGrant.Cluster.Server
import PowerGrant.Cluster.Workloads
import PowerGrant.CommandLine.Parse
import PowerGrant.CommandLine.Setting
import PowerGrant.Controller.Loop
import PowerGrant.Controller.Rejection
import PowerGrant.Controller.Watch
import PowerGrant.Cpu.List
import PowerGrant.Cpu.Quantity
import PowerGrant.Daemon.Entrance
import PowerGrant.Daemon.Peers
import PowerGrant.Daemon.Rehearsal
import PowerGrant.Daemon.Tools
import PowerGrant.Daemon.Transport
import PowerGrant.Files
import PowerGrant.Grant.Basic
import PowerGrant.Grant.Shares
import PowerGrant.Grant.Table
import PowerGrant.Http
import PowerGrant.Identity.Basic
import PowerGrant.Identity.Certificate
import PowerGrant.Identity.PrivateKey
import PowerGrant.Json.Basic
import PowerGrant.Json.Reader
import PowerGrant.Json.Record
import PowerGrant.Json.Shape
import PowerGrant.Json.Sound
import PowerGrant.Json.Writer
import PowerGrant.Kubeconfig.Access
import PowerGrant.Kubeconfig.Basic
import PowerGrant.Kubeconfig.Credentials
import PowerGrant.Kubeconfig.ProgramAnswer
import PowerGrant.Kubeconfig.Provider
import PowerGrant.Lock.Keyed
import PowerGrant.Log.Directive
import PowerGrant.Log.Filter
import PowerGrant.Log.Level
import PowerGrant.Log.Pattern
import PowerGrant.Main
import PowerGrant.NodeAgent
import PowerGrant.Object.Container
import PowerGrant.Object.Metadata
import PowerGrant.Object.Node
import PowerGrant.Object.Placement
import PowerGrant.Object.Pod
import PowerGrant.Object.Volume
import PowerGrant.Pod.Basic
import PowerGrant.Pod.Object
import PowerGrant.Pod.Request
import PowerGrant.PodKey
import PowerGrant.Profile
import PowerGrant.ProfileService
import PowerGrant.Program
import PowerGrant.Reconcile.Basic
import PowerGrant.Reconcile.Config
import PowerGrant.Reconcile.Error
import PowerGrant.Reconcile.Survey
import PowerGrant.Script
import PowerGrant.Services
import PowerGrant.StandIn
import PowerGrant.Surroundings
import PowerGrant.Table
import PowerGrant.Tasks
import PowerGrant.Text.Alphanumeric
import PowerGrant.Text.Base64
import PowerGrant.Text.Blank
import PowerGrant.Text.Cut
import PowerGrant.Text.Der
import PowerGrant.Text.Duration
import PowerGrant.Text.Numeral
import PowerGrant.Text.Pem
import PowerGrant.Text.PemLines
import PowerGrant.Text.Percent
import PowerGrant.Text.Printable
import PowerGrant.Text.Quoted
import PowerGrant.Text.Stretch
import PowerGrant.Text.Timestamp
import PowerGrant.Url
import PowerGrant.Web.Host
import PowerGrant.Web.HostName
import PowerGrant.Web.Location
import PowerGrant.Web.Proxy
import PowerGrant.Workload.Aggregator
import PowerGrant.Workload.Definition
import PowerGrant.Workload.Object
import PowerGrant.Workload.Spec
import PowerGrant.Workload.Store
import PowerGrant.World.Basic
import PowerGrant.World.Fault
import PowerGrant.World.Losses
import PowerGrant.World.Watched
import PowerGrant.Yaml.Cursor
import PowerGrant.Yaml.Document
import PowerGrant.Yaml.Event
import PowerGrant.Yaml.Record
import PowerGrant.Yaml.Scalar
import PowerGrant.Yaml.Scanner
import PowerGrant.Yaml.Token
import PowerGrant.Yaml.Value
import PowerGrant.Yaml.Writer
import PowerGrant.Proofs.Script.Safe
import PowerGrant.Proofs.Script.Trace
import PowerGrant.Proofs.Script.Timed
import PowerGrant.Proofs.Lock.Queues
import PowerGrant.Proofs.Lock.Requests
import PowerGrant.Proofs.Lock.Keyed
import PowerGrant.Proofs.Workload.Entries
import PowerGrant.Proofs.Workload.Specs
import PowerGrant.Proofs.Workload.Versions
import PowerGrant.Proofs.World.Calls
import PowerGrant.Proofs.World.Update
import PowerGrant.Proofs.World.Alone
import PowerGrant.Proofs.World.Losses
import PowerGrant.Proofs.World.Writes
import PowerGrant.Proofs.World.Undisturbed
import PowerGrant.Proofs.World.Contended
import PowerGrant.Proofs.World.Interference
import PowerGrant.Proofs.World.Sent
import PowerGrant.Proofs.Grant.Shares
import PowerGrant.Proofs.Cpu.List
import PowerGrant.Proofs.Reconcile.Phase
import PowerGrant.Proofs.Reconcile.Survey
import PowerGrant.Proofs.Reconcile.Found
import PowerGrant.Proofs.Reconcile.Cases
import PowerGrant.Proofs.Reconcile.Order
import PowerGrant.Proofs.Reconcile.Warrant
import PowerGrant.Proofs.Reconcile.Runs
import PowerGrant.Proofs.Reconcile.Turns
import PowerGrant.Proofs.Reconcile.Again
import PowerGrant.Proofs.Reconcile.AnyOrder
import PowerGrant.Proofs.Reconcile.Aggregate
import PowerGrant.Proofs.Reconcile.Sparing
import PowerGrant.Proofs.Reconcile.TakenBack
import PowerGrant.Proofs.Reconcile.Applied
import PowerGrant.Proofs.Reconcile.Retry
import PowerGrant.Proofs.Reconcile.Moments
import PowerGrant.Proofs.Reconcile.Listing
import PowerGrant.Proofs.Reconcile.Frame
import PowerGrant.Proofs.Reconcile.Restore
import PowerGrant.Proofs.Cluster.Agreement
import PowerGrant.Proofs.Cpu.Canonical
import PowerGrant.Proofs.Reconcile.Duration
import PowerGrant.Proofs.Cpu.Quantity
import PowerGrant.Proofs.Workload.Edits
import PowerGrant.Proofs.Lock.Tracked
import PowerGrant.Proofs.Tasks.Shutdown
import PowerGrant.Proofs.World.Changes
import PowerGrant.Proofs.Reconcile.Recorded
