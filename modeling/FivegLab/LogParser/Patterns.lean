import FivegLab.Calendar.Text
import FivegLab.Pattern
import FivegLab.Regex
import FivegLab.Yaml

/-!
# The patterns of the log parser

`EVENT_PATTERNS` and the other expressions that classify a line of a log, in the
order of the source.  They ignore case, and their words and digits are those of
Unicode.
-/

namespace FivegLab.LogParser

open Regex

/-- The tables of Unicode that the log parser rests on, beyond ASCII. -/
class TextTables extends Unicode where
  isAlphanumeric : Char → Bool
  upper : String → String

/-- Tables for texts of ASCII characters. -/
abbrev asciiTextTables : TextTables where
  toUnicode := asciiTables
  isAlphanumeric _ := false
  upper := Text.upper

/-- `c.upper() == d.upper()`, for an ASCII character `c`. -/
def alike (c d : Char) : Bool := c = d || FieldPattern.foldCase c = FieldPattern.foldCase d

/-- A text, without regard to case. -/
def text (part : String) : Regex := literal alike part.toList

/-- `.*` -/
def anything : Regex := many fun c => c ≠ '\n'

variable [TextTables]

/-- The digit of a character of `\d`. -/
def decimal (c : Char) : Option ℕ :=
  if c.toNat < 0x80 then Calendar.asciiDigit c else Unicode.decimal c

/-- `\d` -/
def isDecimal (c : Char) : Bool := (decimal c).isSome

/-- `\w` -/
def isWord (c : Char) : Bool :=
  if c.toNat < 0x80 then
    ('0' ≤ c && c ≤ '9') || ('A' ≤ c && c ≤ 'Z') || ('a' ≤ c && c ≤ 'z') || c == '_'
  else TextTables.isAlphanumeric c

/-- `\b` -/
def wordBoundary : Regex := boundary isWord

/-- `\b(first|second|...)` -/
def word (first : Regex) (rest : List Regex) : Regex := sequence wordBoundary (oneOf first rest)

def eventPatterns : List (String × Regex) :=
  [("ng_setup",
      all [wordBoundary, text "NG", optional (one fun c => c = '-' || c = ' '), text "Setup",
        optional (text " procedure"), text " ",
        oneOf (text "is successful")
          [text "completed", text "successful", text "accepted", text "Response received"]]),
    ("registration_request",
      word (text "Registration request")
        [text "InitialUEMessage", text "Initial UE Message", text "5GS registration"]),
    ("authentication_failure",
      word (sequence (text "Authentication ") (oneOf (text "failure") [text "reject"]))
        [text "MAC failure", all [text "auth", anything, text "mismatch"]]),
    ("authentication",
      all [wordBoundary, text "Authentication ",
        oneOf (text "request") [text "response", text "successful"]]),
    ("security_mode",
      all [wordBoundary, text "Security mode ", oneOf (text "command") [text "complete"]]),
    ("registration_reject",
      word (text "Registration reject") [text "Registration rejected", text "Illegal UE"]),
    ("registration_accept",
      word (text "Registration accept")
        [text "Registration complete", text "Registration Accept", text "Registration Complete",
          text "Registration is successful", text "UE registered"]),
    ("pdu_session_request",
      word (text "PDU session establishment request")
        [text "PDUSessionResourceSetupRequest", text "PDU Session Establishment Request",
          text "CreateSMContext"]),
    ("pdu_session_reject",
      word (text "PDU session establishment reject")
        [text "PDU Session Establishment Reject", all [text "DNN", anything, text "not supported"],
          all [text "S-NSSAI", anything, text "not supported"], text "NoSmContext",
          all [text "DNN", anything, text "mismatch"]]),
    ("pdu_session_accept",
      word (text "PDU session establishment accept")
        [text "PDU Session Establishment Accept", text "PDU Session Establishment is successful",
          text "PDU Session Resource Setup Response",
          all [text "CreateSMContext", anything, text "success"]]),
    ("pfcp_association",
      word (all [text "PFCP", anything, text "Association"])
        [text "PFCP association", all [text "N4", anything, text "association"]]),
    ("pfcp_session_establishment",
      word (all [text "PFCP", anything, text "Session Establishment"])
        [all [text "N4", anything, text "session", anything, text "establish"]]),
    ("pfcp_session_failure",
      word (all [text "PFCP", anything, oneOf (text "fail") [text "timeout", text "reject"]])
        [all [text "N4", anything, oneOf (text "fail") [text "timeout", text "reject"]]]),
    ("ue_tunnel_created",
      word (sequence (text "uesimtun") (many isDecimal))
        [text "TUN interface", text "UE IP", text "PDU Address", text "IPv4 address",
          all [text "allocated", anything, text "address"]]),
    ("user_plane_success",
      word (text "USER_PLANE_SUCCESS")
        [all [text "ping", anything, notAfter isDecimal, text "0% packet loss"],
          text "traffic test completed"]),
    ("user_plane_failure",
      word (text "USER_PLANE_FAILURE")
        [text "100% packet loss", text "Destination Host Unreachable"]),
    ("component_recovery",
      word (text "recovered")
        [text "restarted", text "service restored", text "component recovery"]),
    ("component_failure",
      word (text "service unavailable")
        [text "container stopped", text "component failure", text "connection refused"]),
    ("error",
      word (text "ERROR")
        [text "WARN", sequence (text "FAIL") (optional (oneOf (text "ED") [text "URE"])),
          sequence (text "reject") (optional (text "ed")), text "denied", text "No response",
          text "timed out", text "mismatch", text "not found", text "unknown", text "invalid"])]

def severityRe : Regex :=
  all [wordBoundary,
    oneOf (text "TRACE")
      [text "DEBUG", text "INFO", text "WARN", text "WARNING", text "ERROR", text "FATAL"],
    wordBoundary]

def relevantButUnclassifiedRe : Regex :=
  all [wordBoundary,
    oneOf (text "NAS")
      [text "NGAP", text "SCTP", text "PFCP", text "GTP", text "PDU", text "DNN", text "NSSAI",
        text "S-NSSAI", text "SUPI", text "IMSI", text "TUN", text "UE", text "gNB", text "AMF",
        text "AUSF", text "UDM", text "UDR", text "SMF", text "UPF"],
    wordBoundary]

omit [TextTables] in
def positiveEvents : List String :=
  ["ng_setup", "authentication", "security_mode", "registration_accept", "pdu_session_accept",
    "ue_tunnel_created", "user_plane_success"]

def negativeOutcome : Regex :=
  all [wordBoundary,
    oneOf (text "failed")
      [text "failure", text "FATAL", sequence (text "reject") (optional (text "ed")),
        text "denied", text "not found", text "does not exist", text "no such"],
    wordBoundary]

def classifyEvents (line : String) : List String :=
  eventPatterns.filterMap fun (event, pattern) =>
    if pattern.Found line.toList ∧ ¬(event ∈ positiveEvents ∧ negativeOutcome.Found line.toList)
    then .some event
    else none

def isRelevantUnclassified (line : String) : Bool :=
  relevantButUnclassifiedRe.Found line.toList

/-- The names of the events of a line. -/
def eventNames (line : String) : List String :=
  if classifyEvents line = [] ∧ isRelevantUnclassified line then ["unclassified_relevant"]
  else classifyEvents line

def inferSeverity (line : String) : String :=
  match severityRe.search line.toList with
  | none => "INFO"
  | .some matched =>
      let severity := TextTables.upper (String.ofList matched)
      if severity = "WARNING" then "WARN" else severity

end FivegLab.LogParser
