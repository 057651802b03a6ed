import FivegLab.KeySort
import FivegLab.LogParser.Normalization
import Mathlib.Data.Prod.Lex
import Mathlib.Data.String.Basic

/-!
# The timeline of a run

`main` parses log files, sorts their events, and summarizes them: how many there
are, which required ones are missing, and how long the three procedures took.
-/

namespace FivegLab.LogParser

open Calendar

/-- The tuple by which `main` sorts. -/
abbrev SortKey := String ×ₗ (String ×ₗ String)

def sortKey (event : LogEvent) : SortKey :=
  toLex (if event.timestamp = "" then "9999" else event.timestamp,
    toLex (event.component, event.event))

def timeline (events : List LogEvent) : List LogEvent := KeySort.sorted sortKey events

/-- `datetime.fromisoformat(timestamp.replace("Z", "+00:00"))` -/
def readTimestamp (timestamp : String) : Option Zoned :=
  fromisoformat (replaceZulu timestamp.toList)

def firstTimestamp (events : List LogEvent) (names : List String) : Option Zoned :=
  events.findSome? fun event =>
    if event.event ∉ names ∨ event.timestamp = "" then none else readTimestamp event.timestamp

section

variable {Number : Type} (milliseconds : ℤ → Number)

/-- `duration_ms`; the microseconds of a difference are given in milliseconds. -/
def durationMs (events : List LogEvent) (startNames endNames : List String) : Option Number :=
  match firstTimestamp events startNames, firstTimestamp events endNames with
  | some start, some finish =>
      if instantOf finish < instantOf start then none
      else some (milliseconds (instantOf finish - instantOf start))
  | _, _ => none

structure Summary (Number : Type) where
  eventCount : ℕ
  unclassifiedRelevantCount : ℕ
  errorOrWarningCount : ℕ
  missingEvents : List String
  registrationDurationMs : Option Number
  authenticationDurationMs : Option Number
  pduSessionEstablishmentDurationMs : Option Number
  deriving DecidableEq, Repr

def requiredEvents : List String :=
  ["ng_setup", "registration_request", "authentication", "security_mode", "registration_accept",
    "pdu_session_request", "pdu_session_accept", "ue_tunnel_created"]

def buildSummary (events : List LogEvent) : Summary Number where
  eventCount := events.length
  unclassifiedRelevantCount :=
    events.countP fun event => event.event = "unclassified_relevant"
  errorOrWarningCount :=
    events.countP fun event =>
      event.severity ∈ ["WARN", "ERROR", "FATAL"] ∨ event.event = "error"
  missingEvents := requiredEvents.filter fun name => name ∉ events.map LogEvent.event
  registrationDurationMs :=
    durationMs milliseconds events ["registration_request"] ["registration_accept"]
  authenticationDurationMs := durationMs milliseconds events ["authentication"] ["security_mode"]
  pduSessionEstablishmentDurationMs :=
    durationMs milliseconds events ["pdu_session_request"]
      ["pdu_session_accept", "ue_tunnel_created"]

/-- A file named on the command line, as it is found, with the years of its stamps. -/
structure LogFile where
  path : Path
  found : Option (Except String String)
  moments : ParseMoments

/-- What the command leaves behind: the list it writes, its summary, what it prints to
the error stream, and its exit code. -/
structure ParserOutcome (Number : Type) where
  written : List LogEvent
  summary : Summary Number
  warnings : List String
  exitCode : ℕ

/-- `main`, once the events are there. -/
def conclude (warnings : List String) (events : List LogEvent) : ParserOutcome Number :=
  let written := timeline events
  let summary := buildSummary milliseconds written
  let missing := summary.missingEvents
  { written
    summary
    warnings :=
      if missing = [] then warnings
      else warnings ++ ["WARNING: required events missing: " ++ ", ".intercalate missing]
    exitCode := if missing = [] then 0 else 2 }

variable [TextTables]

/-- `parse_file`, with the reading of the file. -/
def parseLogFile (path : Path) (moments : ParseMoments) :
    Except String String → Except Raised (List LogEvent)
  | .error reason => .error (.runtimeError s!"Cannot read {path.text}: {reason}")
  | .ok content => parseFile moments path content

/-- The warnings and the events of one file. -/
def collectFile (file : LogFile) : Except Raised (List String × List LogEvent) :=
  match file.found with
  | none => return ([s!"WARNING: missing log file {file.path.text}"], [])
  | some found => do
      let events ← parseLogFile file.path file.moments found
      return ([], events)

def collectEvents : List LogFile → Except Raised (List String × List LogEvent)
  | [] => return ([], [])
  | file :: files => do
      let first ← collectFile file
      let more ← collectEvents files
      return (first.1 ++ more.1, first.2 ++ more.2)

def parserMain (files : List LogFile) : Except Raised (ParserOutcome Number) := do
  let collected ← collectEvents files
  return conclude milliseconds collected.1 collected.2

end

end FivegLab.LogParser
