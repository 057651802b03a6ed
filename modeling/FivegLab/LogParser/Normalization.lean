import FivegLab.LogParser.Values

/-!
# Normalized timestamps

Which instants the parser reads, and when their conversion to UTC succeeds.
Only the RFC 3339 spelling has an offset, so only there an instant can lie
outside the calendar although its date and time lie in it.
-/

namespace FivegLab.LogParser

open Calendar DateTime
open Regex hiding some

/-- The instant of a parsed timestamp. -/
def instantOf (parsed : Zoned) : ℤ := parsed.stamp.instant - parsed.offset.getD 0 * 1000000

/-- A timestamp in UTC as it is written. -/
def IsUtcTimestamp (timestamp : String) : Prop :=
  ∃ utc : DateTime, timestamp = String.ofList utc.utcText

theorem readOffset_small {text : List Char} {offset : ℤ} (read : readOffset text = some offset) :
    -86400 < offset ∧ offset < 86400 := by
  unfold readOffset at read
  simp only [Option.bind_eq_bind] at read
  simp only [Option.bind_eq_some_iff] at read
  rcases read with ⟨⟨sign, _⟩, _, ⟨hours, _⟩, _, _, _, ⟨minutes, last⟩, _, shift⟩
  dsimp only at shift
  split_ifs at shift with refused plus minus
  · cases shift
    omega
  · cases shift
    omega

theorem readZone_small {text : List Char} {offset : Option ℤ} (read : readZone text = some offset) :
    -86400 < offset.getD 0 ∧ offset.getD 0 < 86400 := by
  unfold readZone at read
  split at read
  · cases read
    decide
  · rcases Option.map_eq_some_iff.mp read with ⟨seconds, found, rfl⟩
    exact readOffset_small found

theorem fromisoformat_small {text : List Char} {parsed : Zoned}
    (read : fromisoformat text = some parsed) :
    -86400 < parsed.offset.getD 0 ∧ parsed.offset.getD 0 < 86400 := by
  unfold fromisoformat at read
  rcases Option.bind_eq_some_iff.mp read with ⟨_, _, read⟩
  rcases Option.bind_eq_some_iff.mp read with ⟨_, _, read⟩
  rcases Option.bind_eq_some_iff.mp read with ⟨_, _, read⟩
  rcases Option.bind_eq_some_iff.mp read with ⟨_, _, read⟩
  rcases Option.bind_eq_some_iff.mp read with ⟨_, _, read⟩
  rcases Option.bind_eq_some_iff.mp read with ⟨_, _, read⟩
  rcases Option.bind_eq_some_iff.mp read with ⟨_, _, read⟩
  rcases Option.bind_eq_some_iff.mp read with ⟨_, _, read⟩
  rcases Option.bind_eq_some_iff.mp read with ⟨_, _, read⟩
  rcases Option.bind_eq_some_iff.mp read with ⟨_, _, read⟩
  rcases Option.bind_eq_some_iff.mp read with ⟨_, _, read⟩
  rcases Option.bind_eq_some_iff.mp read with ⟨_, _, read⟩
  rcases Option.bind_eq_some_iff.mp read with ⟨offset, shift, read⟩
  rcases Option.bind_eq_some_iff.mp read with ⟨_, _, read⟩
  rcases Option.bind_eq_some_iff.mp read with ⟨_, _, read⟩
  cases read
  exact readZone_small shift

theorem normalizeTimestamp_ok_iff {parsed : Zoned}
    (small : -86400 < parsed.offset.getD 0 ∧ parsed.offset.getD 0 < 86400) :
    (∃ timestamp, normalizeTimestamp (some parsed) = .ok timestamp) ↔
      InCalendar (instantOf parsed) := by
  unfold instantOf
  rw [← DateTime.minus_isSome_iff small]
  cases shifted : parsed.stamp.minus (parsed.offset.getD 0) with
  | none => simp [normalizeTimestamp, shifted]
  | some utc => simp [normalizeTimestamp, shifted]

theorem normalizeTimestamp_form {parsed : Option Zoned} {timestamp : String}
    (normalized : normalizeTimestamp parsed = .ok timestamp) :
    timestamp = "" ∨ IsUtcTimestamp timestamp := by
  unfold normalizeTimestamp at normalized
  split at normalized
  · cases normalized
    exact .inl rfl
  · split at normalized
    next utc _ =>
      cases normalized
      exact .inr ⟨utc, rfl⟩
    next => exact absurd normalized (by simp)

variable [TextTables]

/-- The first RFC 3339 timestamp of a line, its fraction cut to six digits. -/
def readRfc3339 (line : String) : Option Zoned :=
  (rfc3339.regex.search line.toList).bind fun matched => fromisoformat (offsetText matched)

/-- The first RFC 3339 timestamp of a line denotes an instant of the calendar, in UTC. -/
def Representable (line : String) : Prop :=
  ∀ parsed, readRfc3339 line = some parsed → InCalendar (instantOf parsed)

theorem readValue_rfc3339_search {line : String} {matched : List Char} (year : ℕ)
    (found : rfc3339.regex.search line.toList = some matched) :
    readValue year matched = readRfc3339 line := by
  rcases matches_of_search found with ⟨_, _, _, shape⟩
  rw [readRfc3339, found, Option.bind_some]
  rcases matches_rfc3339_iff.mp shape with
    ⟨date, time, fractional, zone, rfl, isDate, isClock, isFraction, isZone⟩
  exact readValue_rfc3339 isDate isClock isFraction isZone

/-- The patterns without an offset are those of instants in UTC. -/
theorem readValue_utc {year : ℕ} {line : String} {pattern : TimestampPattern}
    {matched : List Char} {parsed : Zoned} (later : pattern ∈ [spaced, bracketed, native])
    (found : pattern.regex.search line.toList = some matched)
    (read : readValue year (pattern.group matched) = some parsed) : parsed.offset = some 0 := by
  have utc : ∀ {before : Option Char} {value rest : List Char},
      spaced.regex.Matches before value rest → readValue year value = some parsed →
        parsed.offset = some 0 := by
    intro before value rest shape read
    rcases matches_spaced_iff.mp shape with
      ⟨date, time, fractional, rfl, isDate, isClock, isFraction⟩
    rw [readValue_spaced isDate isClock isFraction] at read
    rcases Option.map_eq_some_iff.mp read with ⟨_, _, rfl⟩
    rfl
  rcases matches_of_search found with ⟨_, _, _, shape⟩
  simp only [List.mem_cons, List.not_mem_nil, or_false] at later
  rcases later with rfl | rfl | rfl
  · exact utc shape read
  · rcases matches_bracketed_iff.mp shape with ⟨value, rfl, within⟩
    have inner : bracketed.group ('[' :: (value ++ [']'])) = value := by simp [bracketed]
    rw [inner] at read
    exact utc within read
  · rcases matches_native_iff.mp shape with ⟨month, day, time, fractional, rfl, months, days, _⟩
    have whole : native.group (month ++ '/' :: (day ++ ' ' :: (time ++ fractional))) =
        month ++ '/' :: (day ++ ' ' :: (time ++ fractional)) := rfl
    rw [whole, readValue_native months days] at read
    rcases Option.map_eq_some_iff.mp read with ⟨_, _, rfl⟩
    rfl

theorem parseTimestampWith_utc {year : ℕ} {line : String} {patterns : List TimestampPattern}
    {parsed : Zoned} (later : ∀ pattern ∈ patterns, pattern ∈ [spaced, bracketed, native])
    (read : parseTimestampWith year line.toList patterns = some parsed) :
    parsed.offset = some 0 := by
  induction patterns with
  | nil => exact absurd read (by simp [parseTimestampWith])
  | cons pattern patterns ih =>
      simp only [List.forall_mem_cons] at later
      rw [parseTimestampWith] at read
      cases found : pattern.regex.search line.toList with
      | none =>
          rw [found] at read
          exact ih later.2 read
      | some matched =>
          rw [found] at read
          dsimp only at read
          cases value : readValue year (pattern.group matched) with
          | none =>
              rw [value] at read
              exact ih later.2 read
          | some first =>
              rw [value] at read
              cases read
              exact readValue_utc later.1 found value

/-- The RFC 3339 timestamp of a line is preferred; all others are in UTC. -/
theorem parseTimestamp_cases (year : ℕ) (line : String) :
    (∃ parsed, readRfc3339 line = some parsed ∧ parseTimestamp year line = some parsed) ∨
      readRfc3339 line = none ∧
        ∀ parsed, parseTimestamp year line = some parsed → parsed.offset = some 0 := by
  have later : ∀ parsed, parseTimestampWith year line.toList [spaced, bracketed, native] =
      some parsed → parsed.offset = some 0 := by
    intro parsed read
    exact parseTimestampWith_utc (fun _ mem => mem) read
  unfold parseTimestamp timestampPatterns
  rw [parseTimestampWith]
  cases found : rfc3339.regex.search line.toList with
  | none =>
      have missing : readRfc3339 line = none := by
        rw [readRfc3339, found]
        rfl
      exact .inr ⟨missing, later⟩
  | some matched =>
      have value : readValue year (rfc3339.group matched) = readRfc3339 line :=
        readValue_rfc3339_search year found
      dsimp only
      rw [value]
      cases first : readRfc3339 line with
      | none => exact .inr ⟨rfl, later⟩
      | some parsed => exact .inl ⟨parsed, rfl, rfl⟩

theorem normalizeTimestamp_parse_iff (year : ℕ) (line : String) :
    (∃ timestamp, normalizeTimestamp (parseTimestamp year line) = .ok timestamp) ↔
      Representable line := by
  rcases parseTimestamp_cases year line with ⟨parsed, first, read⟩ | ⟨none, utc⟩
  · have small : -86400 < parsed.offset.getD 0 ∧ parsed.offset.getD 0 < 86400 := by
      rcases Option.bind_eq_some_iff.mp first with ⟨_, _, read⟩
      exact fromisoformat_small read
    rw [read, normalizeTimestamp_ok_iff small, Representable, first]
    simp
  · refine iff_of_true ?_ ?_
    · cases read : parseTimestamp year line with
      | none => exact ⟨"", rfl⟩
      | some parsed =>
          have zero := utc parsed read
          refine ⟨String.ofList parsed.stamp.utcText, ?_⟩
          simp [normalizeTimestamp, zero, minus_zero]
    · intro parsed first
      rw [none] at first
      exact absurd first (by simp)

variable {moments : ParseMoments} {path : Path}

theorem stampEvent_ok_iff {year lineNumber : ℕ} {line event : String} :
    (∃ stamped, stampEvent year path lineNumber line event = .ok stamped) ↔
      Representable line := by
  rw [← normalizeTimestamp_parse_iff year line]
  unfold stampEvent
  cases normalizeTimestamp (parseTimestamp year line) with
  | error raised => simp [bind, Except.bind]
  | ok timestamp => simp [bind, Except.bind, pure, Except.pure]

theorem stampEvent_form {year lineNumber : ℕ} {line event : String} {stamped : LogEvent}
    (found : stampEvent year path lineNumber line event = .ok stamped) :
    (stamped.lineNumber = lineNumber ∧ stamped.event = event) ∧
      (stamped.timestamp = "" ∨ IsUtcTimestamp stamped.timestamp) := by
  unfold stampEvent at found
  cases normalized : normalizeTimestamp (parseTimestamp year line) with
  | error raised =>
      rw [normalized] at found
      exact absurd found (by simp [bind, Except.bind])
  | ok timestamp =>
      rw [normalized] at found
      cases found
      exact ⟨⟨rfl, rfl⟩, normalizeTimestamp_form normalized⟩

/-- The events that the lines of a file have, with their line numbers. -/
def expectedEvents (lineNumber : ℕ) : List String → List (ℕ × String)
  | [] => []
  | line :: lines =>
      (eventNames line).map (lineNumber, ·) ++ expectedEvents (lineNumber + 1) lines

/-- The events are the expected ones, and each has a timestamp in UTC or an empty one. -/
def Normalized (expected : List (ℕ × String)) (events : List LogEvent) : Prop :=
  events.map (fun event => (event.lineNumber, event.event)) = expected ∧
    ∀ event ∈ events, event.timestamp = "" ∨ IsUtcTimestamp event.timestamp

omit [TextTables] in
theorem Normalized.append {expected more : List (ℕ × String)} {events others : List LogEvent}
    (first : Normalized expected events) (second : Normalized more others) :
    Normalized (expected ++ more) (events ++ others) := by
  refine ⟨?_, ?_⟩
  · rw [List.map_append, first.1, second.1]
  · intro event mem
    rcases List.mem_append.mp mem with mem | mem
    · exact first.2 event mem
    · exact second.2 event mem

theorem stampEvents_normalized {lineNumber : ℕ} {line : String} {names : List String}
    {events : List LogEvent} (parsed : (names.mapM fun event =>
      stampEvent (moments lineNumber event) path lineNumber line event) = .ok events) :
    Normalized (names.map (lineNumber, ·)) events := by
  induction names generalizing events with
  | nil =>
      cases parsed
      exact ⟨rfl, by simp⟩
  | cons event names ih =>
      rw [List.mapM_cons] at parsed
      rcases Except.bind_ok_iff.mp parsed with ⟨stamped, first, parsed⟩
      rcases Except.bind_ok_iff.mp parsed with ⟨others, rest, same⟩
      cases same
      have form := stampEvent_form first
      have head : Normalized [(lineNumber, event)] [stamped] := by
        refine ⟨?_, ?_⟩
        · simp [form.1]
        · simpa using form.2
      exact head.append (ih rest)

theorem stampEvents_ok_iff (moments : ParseMoments) (path : Path) (lineNumber : ℕ) {line : String}
    {names : List String} :
    (∃ events, (names.mapM fun event =>
      stampEvent (moments lineNumber event) path lineNumber line event) = .ok events) ↔
        (names ≠ [] → Representable line) := by
  induction names with
  | nil => exact iff_of_true ⟨[], rfl⟩ fun nonempty => absurd rfl nonempty
  | cons event names ih =>
      rw [List.mapM_cons]
      constructor
      · rintro ⟨events, parsed⟩ _
        rcases Except.bind_ok_iff.mp parsed with ⟨stamped, first, _⟩
        exact stampEvent_ok_iff.mp ⟨stamped, first⟩
      · intro representable
        have fine := representable (by simp)
        obtain ⟨stamped, first⟩ : ∃ stamped,
            stampEvent (moments lineNumber event) path lineNumber line event = .ok stamped :=
          stampEvent_ok_iff.mpr fine
        rcases ih.mpr fun _ => fine with ⟨events, rest⟩
        exact ⟨stamped :: events, by rw [first, rest]; rfl⟩

theorem parseLines_normalized {lineNumber : ℕ} {lines : List String} {events : List LogEvent}
    (parsed : parseLines moments path lineNumber lines = .ok events) :
    Normalized (expectedEvents lineNumber lines) events := by
  induction lines generalizing lineNumber events with
  | nil =>
      cases parsed
      exact ⟨rfl, by simp⟩
  | cons line lines ih =>
      rw [parseLines] at parsed
      rcases Except.bind_ok_iff.mp parsed with ⟨first, found, parsed⟩
      rcases Except.bind_ok_iff.mp parsed with ⟨more, rest, same⟩
      cases same
      exact (stampEvents_normalized found).append (ih rest)

theorem parseLines_ok_iff (moments : ParseMoments) (path : Path) (lineNumber : ℕ)
    (lines : List String) :
    (∃ events, parseLines moments path lineNumber lines = .ok events) ↔
      ∀ line ∈ lines, eventNames line ≠ [] → Representable line := by
  induction lines generalizing lineNumber with
  | nil => exact iff_of_true ⟨[], rfl⟩ (by simp)
  | cons line lines ih =>
      rw [List.forall_mem_cons, ← ih (lineNumber + 1), parseLines,
        ← stampEvents_ok_iff moments path lineNumber]
      constructor
      · rintro ⟨events, parsed⟩
        rcases Except.bind_ok_iff.mp parsed with ⟨first, found, parsed⟩
        rcases Except.bind_ok_iff.mp parsed with ⟨more, rest, _⟩
        exact ⟨⟨first, found⟩, ⟨more, rest⟩⟩
      · rintro ⟨⟨first, found⟩, ⟨more, rest⟩⟩
        refine ⟨first ++ more, ?_⟩
        unfold parseLine
        rw [found, rest]
        rfl

/-- A file is parsed, with all its events normalized, exactly if the first RFC 3339
timestamp of each line that has an event denotes an instant of the calendar. -/
theorem parseFile_normalizes_iff (moments : ParseMoments) (path : Path) (content : String) :
    (∃ events, parseFile moments path content = .ok events ∧
      Normalized (expectedEvents 1 (Text.splitlines content)) events) ↔
        ∀ line ∈ Text.splitlines content, eventNames line ≠ [] → Representable line := by
  rw [← parseLines_ok_iff moments path 1]
  constructor
  · rintro ⟨events, parsed, _⟩
    exact ⟨events, parsed⟩
  · rintro ⟨events, parsed⟩
    exact ⟨events, parsed, parseLines_normalized parsed⟩

omit [TextTables] in
/-- The first hour of the calendar, an hour ahead of UTC, is before the first year. -/
theorem parseFile_overflows : ¬∃ events, @parseFile asciiTextTables (fun _ _ => 2025)
    ⟨false, ["logs", "amf.log"]⟩ "0001-01-01T00:00:00+01:00 ERROR" = .ok events := by
  rintro ⟨events, parsed⟩
  have missing : (@parseFile asciiTextTables (fun _ _ => 2025) ⟨false, ["logs", "amf.log"]⟩
      "0001-01-01T00:00:00+01:00 ERROR").toOption = none := by decide +kernel
  rw [parsed] at missing
  exact absurd missing (by simp [Except.toOption])

end FivegLab.LogParser
