import FivegLab.LogParser.Patterns
import FivegLab.Raised

/-!
# Timestamps of log lines

`parse_timestamp` tries four spellings of a date and time, one after the other;
`normalize_timestamp` prints the instant in UTC.  The native spelling has no
year: it takes the one of the moment of parsing.
-/

namespace FivegLab.LogParser

open Calendar Regex

variable [TextTables]

/-- A character as it is. -/
def character (c : Char) : Regex := one fun d => d = c

/-- `\d{count}` -/
def digits (count : ℕ) : Regex := repeated isDecimal count

/-- `(?:\.\d+)?` -/
def fraction : Regex := optional (sequence (character '.') (Regex.some isDecimal))

/-- `\d{2}:\d{2}:\d{2}` and the fraction after it. -/
def clock (rest : List Regex) : Regex :=
  all ([digits 2, character ':', digits 2, character ':', digits 2, fraction] ++ rest)

/-- `[+-]\d{2}:\d{2}` -/
def numericOffset : Regex :=
  all [one fun c => c = '+' || c = '-', digits 2, character ':', digits 2]

/-- `\d{4}-\d{2}-\d{2}`, a separator, and what follows it. -/
def dated (separator : Char) (rest : Regex) : Regex :=
  all [digits 4, character '-', digits 2, character '-', digits 2, character separator, rest]

/-- An expression with what its group `ts` is of the text that it matches. -/
structure TimestampPattern where
  regex : Regex
  group : List Char → List Char

def rfc3339 : TimestampPattern where
  regex := dated 'T' (clock [either (character 'Z') numericOffset])
  group := id

def spaced : TimestampPattern where
  regex := dated ' ' (clock [])
  group := id

def bracketed : TimestampPattern where
  regex := all [character '[', dated ' ' (clock []), character ']']
  group matched := matched.tail.dropLast

/-- The spelling of Open5GS. -/
def native : TimestampPattern where
  regex := all [digits 2, character '/', digits 2, character ' ', clock []]
  group := id

def timestampPatterns : List TimestampPattern := [rfc3339, spaced, bracketed, native]

/-- `re.match(r"\d{2}/\d{2} ", value)` -/
def isNative (value : List Char) : Bool :=
  (all [digits 2, character '/', digits 2, character ' ']).ends none value ≠ []

/-- `re.fullmatch(r"[+-]\d{2}:\d{2}", rest)` -/
def isOffset : List Char → Bool
  | [sign, h, i, ':', m, n] =>
      (sign = '+' || sign = '-') && isDecimal h && isDecimal i && isDecimal m && isDecimal n
  | _ => false

/-- `re.search(r"[+-]\d{2}:\d{2}$", value)` -/
def endsWithOffset (value : List Char) : Bool := isOffset (value.drop (value.length - 6))

/-- Cut the fraction of a timestamp, which has at most one point, to six digits. -/
def trimFractionalSeconds (value : List Char) : List Char :=
  match value.dropWhile (· ≠ '.') with
  | [] => value
  | _ :: fractional =>
      let rest := fractional.dropWhile isDecimal
      if 6 < (fractional.takeWhile isDecimal).length ∧ (rest.head? = .some 'Z' ∨ isOffset rest) then
        value.takeWhile (· ≠ '.') ++ '.' :: (fractional.take 6 ++ rest)
      else value

/-- `value.replace("Z", "+00:00")` -/
def replaceZulu (value : List Char) : List Char :=
  value.flatMap fun c => if c = 'Z' then "+00:00".toList else [c]

/-- The two digits of a directive of `strptime`: a pair it names, or a first digit that
it names with any digit after it. -/
def readDirective (pairs : List (Char × Char)) (tens : List Char) (c d : Char) : Option ℕ :=
  if (c, d) ∈ pairs then readDigits asciiDigit [c, d]
  else if c ∈ tens then readDigits decimal [c, d]
  else none

/-- The pairs of a digit and each of the digits that may follow it. -/
def pairsOf (c : Char) (seconds : String) : List (Char × Char) :=
  seconds.toList.map fun d => (c, d)

def readMonth : Char → Char → Option ℕ :=
  readDirective (pairsOf '1' "012" ++ pairsOf '0' "123456789") []

def readDay : Char → Char → Option ℕ :=
  readDirective (pairsOf '3' "01" ++ pairsOf '0' "123456789") ['1', '2']

def readHour : Char → Char → Option ℕ := readDirective (pairsOf '2' "0123") ['0', '1']

def readMinute : Char → Char → Option ℕ := readDirective [] ['0', '1', '2', '3', '4', '5']

def readSecond : Char → Char → Option ℕ :=
  readDirective (pairsOf '6' "01") ['0', '1', '2', '3', '4', '5']

/-- The digits of `%f`, if there are some. -/
def readNativeFraction : List Char → Option ℕ
  | [] => .some 0
  | '.' :: fractional =>
      if fractional.length ≤ 6 ∧ fractional.all isAsciiDigit then readMicroseconds fractional
      else none
  | _ => none

/-- `datetime.strptime(f"{year}/{value}", timestamp_format)`, for a value of the native
spelling; `none` is a `ValueError`. -/
def strptime (year : ℕ) : List Char → Option DateTime
  | m :: n :: '/' :: d :: e :: ' ' :: h :: i :: ':' :: j :: k :: ':' :: s :: t :: rest => do
      let month ← readMonth m n
      let day ← readDay d e
      let hour ← readHour h i
      let minute ← readMinute j k
      let second ← readSecond s t
      let microsecond ← readNativeFraction rest
      let date ← if 1000 ≤ year then Date.ofParts year month day else none
      let time ← Time.ofParts hour minute second microsecond
      return ⟨date, time⟩
  | _ => none

/-- `parsed.replace(tzinfo=UTC)` -/
def atUtc (stamp : DateTime) : Zoned := ⟨stamp, .some 0⟩

/-- The body of the loop of `parse_timestamp`; `none` is a `ValueError`. -/
def readValue (year : ℕ) (value : List Char) : Option Zoned :=
  if isNative value then (strptime year value).map atUtc
  else
    let trimmed := if 'T' ∈ value then trimFractionalSeconds value else value
    let zoned := if trimmed.getLast? = .some 'Z' then replaceZulu trimmed else trimmed
    if endsWithOffset zoned then fromisoformat zoned
    else (fromisoformat zoned).map fun parsed => atUtc parsed.stamp

/-- `parse_timestamp`, in a year, with the patterns that are left. -/
def parseTimestampWith (year : ℕ) (line : List Char) : List TimestampPattern → Option Zoned
  | [] => none
  | pattern :: patterns =>
      match pattern.regex.search line with
      | none => parseTimestampWith year line patterns
      | .some matched =>
          match readValue year (pattern.group matched) with
          | .some parsed => .some parsed
          | none => parseTimestampWith year line patterns

def parseTimestamp (year : ℕ) (line : String) : Option Zoned :=
  parseTimestampWith year line.toList timestampPatterns

omit [TextTables] in
/-- `normalize_timestamp`: the conversion to UTC may leave the calendar. -/
def normalizeTimestamp : Option Zoned → Except Raised String
  | none => .ok ""
  | .some parsed =>
      match parsed.stamp.minus (parsed.offset.getD 0) with
      | .some utc => .ok (String.ofList utc.utcText)
      | none => .error ⟨.overflowError, "date value out of range"⟩

end FivegLab.LogParser
