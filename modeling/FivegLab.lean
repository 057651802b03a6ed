import FivegLab.Program.Basic
import FivegLab.Program.Logic
import FivegLab.Program.Interference
import FivegLab.Program.Routine
import FivegLab.Program.Realize
import FivegLab.Program.Play
import FivegLab.Program.Guard
import FivegLab.Program.Conclude
import FivegLab.Program.Callers
import FivegLab.Program.Noting
import FivegLab.Codes
import FivegLab.Raised
import FivegLab.Text
import FivegLab.Words
import FivegLab.Json
import FivegLab.Path
import FivegLab.Sha256
import FivegLab.Pattern
import FivegLab.Models
import FivegLab.Scenario
import FivegLab.Yaml
import FivegLab.ScenarioParser
import FivegLab.ScenarioGrammar
import FivegLab.Assertions
import FivegLab.Readiness.Core
import FivegLab.Readiness.Wait
import FivegLab.Readiness.Stability
import FivegLab.Host.Basic
import FivegLab.Host.Command
import FivegLab.Host.Execute
import FivegLab.Host.Issued
import FivegLab.Host.Signals
import FivegLab.Evidence
import FivegLab.Markdown
import FivegLab.Report
import FivegLab.Preflight
import FivegLab.Readiness.Read
import FivegLab.FaultInjection.Basic
import FivegLab.FaultInjection.Environment
import FivegLab.FaultInjection.Confinement
import FivegLab.FaultInjection.Rollback
import FivegLab.FaultInjection.Interleaving
import FivegLab.FaultInjection.Isolation
import FivegLab.FaultInjection.Reuse
import FivegLab.FaultInjection.Verification
import FivegLab.IpAddress
import FivegLab.Config.Basic
import FivegLab.Config.Compose
import FivegLab.Config.Syntax
import FivegLab.Config.Repository
import FivegLab.Config.Agreement
import FivegLab.Config.Images
import FivegLab.Orchestration.Basic
import FivegLab.Orchestration.Context
import FivegLab.Orchestration.Gate
import FivegLab.Orchestration.Health
import FivegLab.Orchestration.Checks
import FivegLab.Orchestration.PassedChecks
import FivegLab.Orchestration.Baseline
import FivegLab.Orchestration.BaselineVerdict
import FivegLab.Readiness.Bounded
import FivegLab.Orchestration.Fault
import FivegLab.Orchestration.FaultVerdict
import FivegLab.Orchestration.Run
import FivegLab.Orchestration.Acceptance
import FivegLab.Orchestration.Gates
import FivegLab.Orchestration.Canonical
import FivegLab.Cli
import FivegLab.Orchestration.Unlocking
import FivegLab.Orchestration.Identity
import FivegLab.Calendar.Basic
import FivegLab.Calendar.Text
import FivegLab.Regex
import FivegLab.KeySort
import FivegLab.LogParser.Patterns
import FivegLab.LogParser.Timestamp
import FivegLab.LogParser.Events
import FivegLab.LogParser.Shapes
import FivegLab.LogParser.Values
import FivegLab.LogParser.Normalization
import FivegLab.LogParser.Timeline
import FivegLab.LogParser.Chronology
import FivegLab.LogParser.Spelling
import FivegLab.Lines
import FivegLab.LogParser.TrafficTest
import FivegLab.Marks
import FivegLab.Readiness.Association
import FivegLab.JsonDecoder
import FivegLab.JsonTrailing
import FivegLab.JsonRoundTrip
import FivegLab.JsonRereading
import FivegLab.VisibleLines
import FivegLab.Readiness.Streams
import FivegLab.Orchestration.StoredResult
import FivegLab.Orchestration.ReadBack
import FivegLab.Orchestration.RunDirectory
import FivegLab.Orchestration.Artifacts
import FivegLab.Orchestration.Interrupts
import FivegLab.Config.Formats
import FivegLab.Interpolation
import FivegLab.RuntimePreflight.ProbeDocument
import FivegLab.RuntimePreflight.Basic
import FivegLab.RuntimePreflight.Probes
import FivegLab.RuntimePreflight.Order
import FivegLab.RuntimePreflight.ProbeFiles
import FivegLab.RuntimePreflight.Signals
import FivegLab.Program.Triple
import FivegLab.Shell
import FivegLab.UpfEntrypoint.Basic
import FivegLab.UpfEntrypoint.Network
import FivegLab.UpfEntrypoint.Safety
