import ScenarioRunner.Backend.Basic
import ScenarioRunner.Backend.EnvironmentFolder
import ScenarioRunner.Backend.EventStream
import ScenarioRunner.Backend.Host
import ScenarioRunner.Backend.Http
import ScenarioRunner.Backend.Replay
import ScenarioRunner.Backend.Scripted
import ScenarioRunner.Backend.StatusCode
import ScenarioRunner.Backend.Url
import ScenarioRunner.Catalog.Basic
import ScenarioRunner.Catalog.Directory
import ScenarioRunner.Catalog.Load
import ScenarioRunner.Command.Arguments
import ScenarioRunner.Command.Session
import ScenarioRunner.DateTime.Basic
import ScenarioRunner.DateTime.Calendar
import ScenarioRunner.Decimal.Binary64
import ScenarioRunner.Decimal.Reading
import ScenarioRunner.Decimal.Shortest
import ScenarioRunner.Discovery.Node
import ScenarioRunner.Discovery.NodeId
import ScenarioRunner.Discovery.Plan
import ScenarioRunner.Discovery.Selector
import ScenarioRunner.Discovery.TagFilter
import ScenarioRunner.Discovery.Tree
import ScenarioRunner.Document.Datum
import ScenarioRunner.Document.Decode
import ScenarioRunner.Document.Error
import ScenarioRunner.Document.Load
import ScenarioRunner.Engine.ClassRun
import ScenarioRunner.Engine.ClassScope
import ScenarioRunner.Engine.Event
import ScenarioRunner.Engine.Follow
import ScenarioRunner.Engine.Job
import ScenarioRunner.Engine.Measure
import ScenarioRunner.Engine.Options
import ScenarioRunner.Engine.Run
import ScenarioRunner.Engine.Schedule
import ScenarioRunner.Error
import ScenarioRunner.Files.Name
import ScenarioRunner.Files.Path
import ScenarioRunner.Files.Tree
import ScenarioRunner.Json.Basic
import ScenarioRunner.Json.Reader
import ScenarioRunner.Json.Writer
import ScenarioRunner.Launch
import ScenarioRunner.Main
import ScenarioRunner.Model.Environment
import ScenarioRunner.Model.Report
import ScenarioRunner.Model.Scenario
import ScenarioRunner.Model.Status
import ScenarioRunner.Progress.Policy
import ScenarioRunner.Progress.Slot
import ScenarioRunner.Progress.Tracker
import ScenarioRunner.Proofs.Backend.Calls
import ScenarioRunner.Proofs.Backend.Chunks
import ScenarioRunner.Proofs.Backend.Delivery
import ScenarioRunner.Proofs.Backend.Enumeration
import ScenarioRunner.Proofs.Backend.Exchanges
import ScenarioRunner.Proofs.Backend.Lines
import ScenarioRunner.Proofs.Backend.Resolution
import ScenarioRunner.Proofs.Backend.Steady
import ScenarioRunner.Proofs.Catalog.Directories
import ScenarioRunner.Proofs.Catalog.Packages
import ScenarioRunner.Proofs.Command.ExitStatus
import ScenarioRunner.Proofs.Command.Launching
import ScenarioRunner.Proofs.Command.Outcomes
import ScenarioRunner.Proofs.DateTime.Reading
import ScenarioRunner.Proofs.DateTime.Stamps
import ScenarioRunner.Proofs.Discovery.Identity
import ScenarioRunner.Proofs.Discovery.Issues
import ScenarioRunner.Proofs.Discovery.Layers
import ScenarioRunner.Proofs.Discovery.Picks
import ScenarioRunner.Proofs.Discovery.Rendering
import ScenarioRunner.Proofs.Discovery.Search
import ScenarioRunner.Proofs.Discovery.Selection
import ScenarioRunner.Proofs.Discovery.Selectors
import ScenarioRunner.Proofs.Discovery.Shape
import ScenarioRunner.Proofs.Document.Records
import ScenarioRunner.Proofs.Document.Values
import ScenarioRunner.Proofs.Engine.Accounts
import ScenarioRunner.Proofs.Engine.Aggregation
import ScenarioRunner.Proofs.Engine.Archives
import ScenarioRunner.Proofs.Engine.Calls
import ScenarioRunner.Proofs.Engine.Census
import ScenarioRunner.Proofs.Engine.Choices
import ScenarioRunner.Proofs.Engine.ClassEvents
import ScenarioRunner.Proofs.Engine.ClassLog
import ScenarioRunner.Proofs.Engine.ClassPlan
import ScenarioRunner.Proofs.Engine.ClassTask
import ScenarioRunner.Proofs.Engine.Completion
import ScenarioRunner.Proofs.Engine.Concurrency
import ScenarioRunner.Proofs.Engine.Counts
import ScenarioRunner.Proofs.Engine.Endings
import ScenarioRunner.Proofs.Engine.Escalation
import ScenarioRunner.Proofs.Engine.Execution
import ScenarioRunner.Proofs.Engine.Foresight
import ScenarioRunner.Proofs.Engine.InFlight
import ScenarioRunner.Proofs.Engine.Isolation
import ScenarioRunner.Proofs.Engine.JobEvents
import ScenarioRunner.Proofs.Engine.Latch
import ScenarioRunner.Proofs.Engine.Lifecycle
import ScenarioRunner.Proofs.Engine.Lists
import ScenarioRunner.Proofs.Engine.Numbers
import ScenarioRunner.Proofs.Engine.Overload
import ScenarioRunner.Proofs.Engine.Recording
import ScenarioRunner.Proofs.Engine.Rehearsals
import ScenarioRunner.Proofs.Engine.Replies
import ScenarioRunner.Proofs.Engine.Rescue
import ScenarioRunner.Proofs.Engine.RunLog
import ScenarioRunner.Proofs.Engine.RunPlan
import ScenarioRunner.Proofs.Engine.ScenarioStep
import ScenarioRunner.Proofs.Engine.ScopeLog
import ScenarioRunner.Proofs.Engine.Search
import ScenarioRunner.Proofs.Engine.Served
import ScenarioRunner.Proofs.Engine.StepEvents
import ScenarioRunner.Proofs.Engine.Submissions
import ScenarioRunner.Proofs.Engine.Supervision
import ScenarioRunner.Proofs.Engine.Verdicts
import ScenarioRunner.Proofs.Engine.Waiting
import ScenarioRunner.Proofs.Files.Alike
import ScenarioRunner.Proofs.Files.Paths
import ScenarioRunner.Proofs.Files.Trees
import ScenarioRunner.Proofs.Files.Writing
import ScenarioRunner.Proofs.Model.RoundTrip
import ScenarioRunner.Proofs.Progress.Board
import ScenarioRunner.Proofs.Progress.Held
import ScenarioRunner.Proofs.Progress.History
import ScenarioRunner.Proofs.Progress.Index
import ScenarioRunner.Proofs.Progress.Judgement
import ScenarioRunner.Proofs.Progress.Knowledge
import ScenarioRunner.Proofs.Progress.Lifecycle
import ScenarioRunner.Proofs.Progress.Nesting
import ScenarioRunner.Proofs.Progress.Observation
import ScenarioRunner.Proofs.Progress.Order
import ScenarioRunner.Proofs.Progress.Pass
import ScenarioRunner.Proofs.Progress.Positions
import ScenarioRunner.Proofs.Progress.Reachable
import ScenarioRunner.Proofs.Progress.Rehearsal
import ScenarioRunner.Proofs.Progress.Repetition
import ScenarioRunner.Proofs.Progress.Results
import ScenarioRunner.Proofs.Progress.RetryWindow
import ScenarioRunner.Proofs.Progress.RollUp
import ScenarioRunner.Proofs.Progress.SlotTree
import ScenarioRunner.Proofs.Progress.Walk
import ScenarioRunner.Proofs.Report.Indentation
import ScenarioRunner.Proofs.Report.Paths
import ScenarioRunner.Proofs.Report.Storing
import ScenarioRunner.Proofs.Report.Styles
import ScenarioRunner.Proofs.Text.Cuts
import ScenarioRunner.Proofs.Text.Utf8
import ScenarioRunner.Report.Archive
import ScenarioRunner.Report.Console
import ScenarioRunner.Report.Folder
import ScenarioRunner.Report.Outline
import ScenarioRunner.Report.Style
import ScenarioRunner.Report.Transcript
import ScenarioRunner.Settings
import ScenarioRunner.Text.Blank
import ScenarioRunner.Text.Digit
import ScenarioRunner.Text.Printable
import ScenarioRunner.Text.Quoted
import ScenarioRunner.Text.Split
import ScenarioRunner.Text.Utf8
import ScenarioRunner.Toml.Basic
import ScenarioRunner.Toml.Reader
import ScenarioRunner.Toml.Scalar
import ScenarioRunner.Yaml.Cursor
import ScenarioRunner.Yaml.Layout
import ScenarioRunner.Yaml.Node
import ScenarioRunner.Yaml.Scalar
import ScenarioRunner.Yaml.Token
import ScenarioRunner.Yaml.Value
