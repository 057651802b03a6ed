import FivegLab.LogParser.Timestamp
import FivegLab.Path

/-!
# Events of a log file

`parse_file`: the events of every line, each with the timestamp of its line.
Classification and severity cannot fail, so all that can go wrong for a readable
file is the conversion of a timestamp to UTC.
-/

namespace FivegLab.LogParser

open Calendar

/-- `path.name` -/
def fileName (path : Path) : String := path.parts.getLast?.getD ""

/-- `path.stem`: the name without its last suffix. -/
def fileStem (path : Path) : String :=
  let name := fileName path
  let dot := Text.rfind name "."
  if 0 < dot ∧ dot < name.length - 1 then String.ofList (name.toList.take dot.toNat) else name

structure LogEvent where
  timestamp : String
  component : String
  event : String
  severity : String
  rawLine : String
  sourceFile : String
  lineNumber : ℕ
  deriving DecidableEq, Repr

variable [TextTables]

def inferComponent (path : Path) : String :=
  let name := Text.lower (fileName path)
  match ["ue", "gnb", "amf", "ausf", "udm", "udr", "smf", "upf", "nrf"].find?
    fun component => Text.Contains name component with
  | some component => Text.upper component
  | none => TextTables.upper (fileStem path)

/-- An event of a line, stamped in a year. -/
def stampEvent (year : ℕ) (path : Path) (lineNumber : ℕ) (line event : String) :
    Except Raised LogEvent := do
  let timestamp ← normalizeTimestamp (parseTimestamp year line)
  return {
    timestamp
    component := inferComponent path
    event
    severity := inferSeverity line
    rawLine := Text.strip line
    sourceFile := path.text
    lineNumber }

/-- The years in which the events of a file are stamped, by line and event. -/
abbrev ParseMoments := ℕ → String → ℕ

def parseLine (moments : ParseMoments) (path : Path) (lineNumber : ℕ) (line : String) :
    Except Raised (List LogEvent) :=
  (eventNames line).mapM fun event =>
    stampEvent (moments lineNumber event) path lineNumber line event

/-- The events of lines that are counted from a number on. -/
def parseLines (moments : ParseMoments) (path : Path) :
    ℕ → List String → Except Raised (List LogEvent)
  | _, [] => return []
  | lineNumber, line :: lines => do
      let events ← parseLine moments path lineNumber line
      let more ← parseLines moments path (lineNumber + 1) lines
      return events ++ more

/-- `parse_file`, for a readable file with its content. -/
def parseFile (moments : ParseMoments) (path : Path) (content : String) :
    Except Raised (List LogEvent) :=
  parseLines moments path 1 (Text.splitlines content)

end FivegLab.LogParser
