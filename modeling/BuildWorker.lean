import BuildWorker.Cli.Args
import BuildWorker.Cli.Report
import BuildWorker.Cli.Session
import BuildWorker.Config.Read
import BuildWorker.Config.Settings
import BuildWorker.Error
import BuildWorker.Files.Folder
import BuildWorker.Files.Inflate
import BuildWorker.Files.Path
import BuildWorker.Files.Tar
import BuildWorker.Files.Tree
import BuildWorker.Identity.Basic
import BuildWorker.Identity.Legacy
import BuildWorker.Identity.Store
import BuildWorker.Identity.Yaml
import BuildWorker.Job.Basic
import BuildWorker.Job.Json
import BuildWorker.Job.Outcome
import BuildWorker.Json.Reader
import BuildWorker.Json.Value
import BuildWorker.Log.Buffer
import BuildWorker.Log.Delivery
import BuildWorker.Log.Marker
import BuildWorker.Main
import BuildWorker.Queue.Name
import BuildWorker.Run.Direct
import BuildWorker.Run.Supervise
import BuildWorker.Run.ProcessTree
import BuildWorker.Run.Termination
import BuildWorker.Script.Execute
import BuildWorker.Script.Generate
import BuildWorker.Script.Staging
import BuildWorker.Server.Http
import BuildWorker.Server.Memory
import BuildWorker.Server.Route
import BuildWorker.Shell.Arith
import BuildWorker.Shell.Brace
import BuildWorker.Shell.Builtin.Basic
import BuildWorker.Shell.Builtin.Declare
import BuildWorker.Shell.Builtin.Input
import BuildWorker.Shell.Builtin.Options
import BuildWorker.Shell.Command
import BuildWorker.Shell.Condition
import BuildWorker.Shell.Expand
import BuildWorker.Shell.Fields
import BuildWorker.Shell.Format
import BuildWorker.Shell.Glob
import BuildWorker.Shell.Lex
import BuildWorker.Shell.Machine
import BuildWorker.Shell.ParamOps
import BuildWorker.Shell.Parse
import BuildWorker.Shell.Process
import BuildWorker.Shell.Quote
import BuildWorker.Shell.Redirection
import BuildWorker.Shell.Regex
import BuildWorker.Shell.Run
import BuildWorker.Shell.Tool.Archive
import BuildWorker.Shell.Tool.Call
import BuildWorker.Shell.Tool.Files
import BuildWorker.Shell.Tool.Sequence
import BuildWorker.Shell.Tool.Stream
import BuildWorker.Shell.Tool.Translate
import BuildWorker.Shell.Tools
import BuildWorker.Shell.Variables
import BuildWorker.Shell.Words
import BuildWorker.Strategy
import BuildWorker.Text.Blank
import BuildWorker.Text.Calendar
import BuildWorker.Text.Case
import BuildWorker.Text.Decimal
import BuildWorker.Text.Escaped
import BuildWorker.Text.Extended
import BuildWorker.Text.ReadFloat
import BuildWorker.Text.Utf8
import BuildWorker.Text.WordClass
import BuildWorker.Worker.Build
import BuildWorker.Worker.Journal
import BuildWorker.Worker.Loop
import BuildWorker.Worker.Options
import BuildWorker.Yaml.Decode
import BuildWorker.Yaml.Document
import BuildWorker.Yaml.Emit
import BuildWorker.Yaml.Parser
import BuildWorker.Yaml.Scalar
import BuildWorker.Yaml.Scanner
import BuildWorker.Proofs.Log.Accounting
import BuildWorker.Proofs.Log.Interleaving
import BuildWorker.Proofs.Build.ForcedStop
import BuildWorker.Proofs.Script.Skeleton
import BuildWorker.Proofs.Script.Execution
import BuildWorker.Proofs.Script.Program
import BuildWorker.Proofs.Script.Phases
import BuildWorker.Proofs.Script.Control
import BuildWorker.Proofs.Log.Fallback
import BuildWorker.Proofs.Identity.StoreSteps
import BuildWorker.Proofs.Identity.Guards
import BuildWorker.Proofs.Run.Transcript
import BuildWorker.Proofs.Worker.Output
import BuildWorker.Proofs.Worker.JobLoop
import BuildWorker.Proofs.Text.Utf8
import BuildWorker.Proofs.Server.RouteSegments
import BuildWorker.Proofs.Worker.WorkDir
import BuildWorker.Proofs.Log.Sections
import BuildWorker.Proofs.Log.Characters
import BuildWorker.Proofs.Shell.QuotedWords
import BuildWorker.Proofs.Identity.Listing
import BuildWorker.Proofs.Identity.Registration
import BuildWorker.Proofs.Queue.Names
import BuildWorker.Proofs.Identity.Cleaning
import BuildWorker.Proofs.Run.Descendants
import BuildWorker.Proofs.Json.Reading
import BuildWorker.Proofs.Json.Scalars
import BuildWorker.Proofs.Json.Records
import BuildWorker.Proofs.Job.TextReadBack
import BuildWorker.Proofs.Text.Truncated
