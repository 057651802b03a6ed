import FivegLab.LogParser.Timeline

/-!
# The order of the timeline

The summary depends on the keys of the sorted events only, so it is the same
for every order of the files.  The order of the keys is that of the instants
except where a second or the last year of the calendar is written differently.
-/

namespace FivegLab.LogParser

open Calendar DateTime

/-- What `first_timestamp` reads, by the key of an event. -/
def readKey (names : List String) (key : SortKey) : Option Zoned :=
  if (ofLex (ofLex key).2).2 ∉ names then none else readTimestamp (ofLex key).1

theorem readTimestamp_untimed : readTimestamp "9999" = none := by decide

/-- An untimed event is not read, although its key has a timestamp. -/
theorem readKey_sortKey (names : List String) (event : LogEvent) :
    readKey names (sortKey event) =
      if event.event ∉ names ∨ event.timestamp = "" then none
      else readTimestamp event.timestamp := by
  unfold readKey sortKey
  by_cases named : event.event ∈ names
  · by_cases untimed : event.timestamp = ""
    · simp [named, untimed, readTimestamp_untimed]
    · simp [named, untimed]
  · simp [named]

theorem firstTimestamp_eq_findSome (events : List LogEvent) (names : List String) :
    firstTimestamp events names = (events.map sortKey).findSome? (readKey names) := by
  rw [List.findSome?_map]
  unfold firstTimestamp
  congr 1
  funext event
  exact (readKey_sortKey names event).symm

section

variable {Number : Type} {milliseconds : ℤ → Number} {events others : List LogEvent}

theorem durationMs_of_keys (same : events.map sortKey = others.map sortKey)
    (startNames endNames : List String) :
    durationMs milliseconds events startNames endNames =
      durationMs milliseconds others startNames endNames := by
  unfold durationMs
  rw [firstTimestamp_eq_findSome, firstTimestamp_eq_findSome events, same,
    ← firstTimestamp_eq_findSome, ← firstTimestamp_eq_findSome]

/-- The summary of permuted events with the same sequence of keys is the same. -/
theorem buildSummary_of_keys (perm : events.Perm others)
    (same : events.map sortKey = others.map sortKey) :
    buildSummary milliseconds events = buildSummary milliseconds others := by
  have missing : (requiredEvents.filter fun name => name ∉ events.map LogEvent.event) =
      requiredEvents.filter fun name => name ∉ others.map LogEvent.event := by
    apply List.filter_congr
    intro name _
    simp only [(perm.map LogEvent.event).mem_iff]
  unfold buildSummary
  rw [perm.length_eq, perm.countP_eq, perm.countP_eq, missing, durationMs_of_keys same,
    durationMs_of_keys same, durationMs_of_keys same]

theorem buildSummary_timeline_of_perm (perm : events.Perm others) :
    buildSummary milliseconds (timeline events) = buildSummary milliseconds (timeline others) := by
  apply buildSummary_of_keys
  · exact (KeySort.sorted_perm sortKey events).trans
      (perm.trans (KeySort.sorted_perm sortKey others).symm)
  · exact KeySort.map_sorted_of_perm sortKey perm

variable [TextTables] {files otherFiles : List LogFile}

theorem collectEvents_cons_iff {file : LogFile} {collected : List String × List LogEvent} :
    collectEvents (file :: files) = .ok collected ↔ ∃ first more, collectFile file = .ok first ∧
      collectEvents files = .ok more ∧ collected = (first.1 ++ more.1, first.2 ++ more.2) := by
  rw [collectEvents, Except.bind_ok_iff]
  constructor
  · rintro ⟨first, found, rest⟩
    rcases Except.bind_ok_iff.mp rest with ⟨more, others, same⟩
    cases same
    exact ⟨first, more, found, others, rfl⟩
  · rintro ⟨first, more, found, others, rfl⟩
    exact ⟨first, found, Except.bind_ok_iff.mpr ⟨more, others, rfl⟩⟩

/-- The files are parsed in every order, with the same warnings and events. -/
theorem collectEvents_of_perm (perm : files.Perm otherFiles)
    {collected : List String × List LogEvent} (parsed : collectEvents files = .ok collected) :
    ∃ other, collectEvents otherFiles = .ok other ∧ other.1.Perm collected.1 ∧
      other.2.Perm collected.2 := by
  induction perm generalizing collected with
  | nil => exact ⟨collected, parsed, .refl _, .refl _⟩
  | cons file _ ih =>
      rcases collectEvents_cons_iff.mp parsed with ⟨first, more, found, rest, rfl⟩
      rcases ih rest with ⟨other, others, warnings, events⟩
      exact ⟨_, collectEvents_cons_iff.mpr ⟨first, other, found, others, rfl⟩,
        warnings.append_left _, events.append_left _⟩
  | swap file other files =>
      rcases collectEvents_cons_iff.mp parsed with ⟨first, _, found, rest, rfl⟩
      rcases collectEvents_cons_iff.mp rest with ⟨second, more, next, remaining, rfl⟩
      have swapped := collectEvents_cons_iff.mpr ⟨first, more, found, remaining, rfl⟩
      exact ⟨_, collectEvents_cons_iff.mpr ⟨second, _, next, swapped, rfl⟩,
        List.perm_append_comm_assoc _ _ _, List.perm_append_comm_assoc _ _ _⟩
  | trans _ _ ihFirst ihSecond =>
      rcases ihFirst parsed with ⟨middle, parsed, warnings, events⟩
      rcases ihSecond parsed with ⟨other, parsed, otherWarnings, otherEvents⟩
      exact ⟨other, parsed, otherWarnings.trans warnings, otherEvents.trans events⟩

/-- A log with two lines of the same second, half a second apart. -/
def halfSecondLog : LogFile where
  path := ⟨false, ["logs", "amf.log"]⟩
  found := some (.ok "2025-01-01T00:00:05Z ERROR\n2025-01-01T00:00:05.5Z ERROR")
  moments _ _ := 2025

def missingLog : LogFile where
  path := ⟨false, ["logs", "ue.log"]⟩
  found := none
  moments _ _ := 2025

/-- Two logs of the AMF, with a line of the same time in each. -/
def amfLog : LogFile where
  path := ⟨false, ["logs", "amf.log"]⟩
  found := some (.ok "2025-01-01T00:00:05Z ERROR\n2025-01-01T00:00:06Z ERROR")
  moments _ _ := 2025

def rotatedLog : LogFile where
  path := ⟨false, ["logs", "amf.log.1"]⟩
  found := some (.ok "2025-01-01T00:00:05Z ERROR")
  moments _ _ := 2025

omit [TextTables] in
theorem exists_ok_of_map {α β : Type} {value : Except Raised α} {view : α → β} {seen : β}
    (evaluated : value.toOption.map view = some seen) :
    ∃ result, value = .ok result ∧ view result = seen := by
  cases value with
  | error raised => cases evaluated
  | ok result => exact ⟨result, rfl, Option.some.inj evaluated⟩

omit [TextTables] in
/-- The first line of the log has no fraction, and its second line has one. -/
theorem collectEvents_halfSecond : ∃ collected,
    @collectEvents asciiTextTables [halfSecondLog, missingLog] = .ok collected ∧
      collected.2.map LogEvent.timestamp =
        ["2025-01-01T00:00:05Z", "2025-01-01T00:00:05.500000Z"] := by
  apply exists_ok_of_map
  decide +kernel

omit [TextTables] in
theorem collectEvents_rotated : ∃ collected,
    @collectEvents asciiTextTables [amfLog, rotatedLog] = .ok collected ∧
      collected.2.map LogEvent.timestamp =
        ["2025-01-01T00:00:05Z", "2025-01-01T00:00:06Z", "2025-01-01T00:00:05Z"] := by
  apply exists_ok_of_map
  decide +kernel

/-- The summary does not depend on the order of the files, nor on that of their events,
and the written list has every parsed event once. -/
theorem parserMain_order_independent (milliseconds : ℤ → Number)
    (perm : files.Perm otherFiles) {outcome : ParserOutcome Number}
    (ran : parserMain milliseconds files = .ok outcome) :
    (∃ other collected, parserMain milliseconds otherFiles = .ok other ∧
      other.summary = outcome.summary ∧ other.exitCode = outcome.exitCode ∧
        collectEvents otherFiles = .ok collected ∧ other.written.Perm collected.2) ∧
    ∃ collected, collectEvents files = .ok collected ∧ outcome.written.Perm collected.2 ∧
      ∀ shuffled : List LogEvent, shuffled.Perm collected.2 →
        buildSummary milliseconds (timeline shuffled) = outcome.summary := by
  rcases Except.bind_ok_iff.mp ran with ⟨collected, parsed, same⟩
  cases same
  rcases collectEvents_of_perm perm parsed with ⟨other, parsedOther, _, events⟩
  have summary : buildSummary milliseconds (timeline other.2) =
      buildSummary milliseconds (timeline collected.2) := buildSummary_timeline_of_perm events
  refine ⟨⟨conclude milliseconds other.1 other.2, other, ?_, summary, ?_, parsedOther,
    KeySort.sorted_perm sortKey other.2⟩, collected, parsed,
    KeySort.sorted_perm sortKey collected.2,
    ?_⟩
  · exact Except.bind_ok_iff.mpr ⟨other, parsedOther, rfl⟩
  · unfold conclude
    dsimp only
    rw [summary]
  · intro shuffled permuted
    exact buildSummary_timeline_of_perm permuted

omit [TextTables] in
/-- The events of one time stand in the order of their files, and the summary is the same. -/
theorem parserMain_order_independent_pair : ∃ outcome other,
    @parserMain ℤ id asciiTextTables [amfLog, rotatedLog] = .ok outcome ∧
      @parserMain ℤ id asciiTextTables [rotatedLog, amfLog] = .ok other ∧
        other.written ≠ outcome.written ∧ other.summary = outcome.summary := by
  have written : ∃ outcome, @parserMain ℤ id asciiTextTables [amfLog, rotatedLog] = .ok outcome ∧
      outcome.written.map LogEvent.sourceFile =
        ["logs/amf.log", "logs/amf.log.1", "logs/amf.log"] := by
    apply exists_ok_of_map
    decide +kernel
  have writtenOther : ∃ outcome, @parserMain ℤ id asciiTextTables [rotatedLog, amfLog] =
      .ok outcome ∧ outcome.written.map LogEvent.sourceFile =
        ["logs/amf.log.1", "logs/amf.log", "logs/amf.log"] := by
    apply exists_ok_of_map
    decide +kernel
  rcases written with ⟨outcome, ran, files⟩
  obtain ⟨⟨other, _, ranOther, summary, _⟩, _⟩ :=
    @parserMain_order_independent ℤ asciiTextTables _ _ id
      (List.Perm.swap rotatedLog amfLog []) _ ran
  rcases writtenOther with ⟨_, ranAgain, otherFiles⟩
  rw [ranOther, Except.ok.injEq] at ranAgain
  subst ranAgain
  refine ⟨outcome, other, ran, ranOther, fun same => ?_, summary⟩
  rw [same, files] at otherFiles
  exact absurd otherFiles (by decide)

end

/-- The event has the timestamp of an instant. -/
def Stamped (event : LogEvent) (utc : DateTime) : Prop :=
  event.timestamp = String.ofList utc.utcText

/-- An event may stand before another one. -/
structure InOrder (event other : LogEvent) : Prop where
  instants : ∀ first second, Stamped event first → Stamped other second →
    first.instant ≤ second.instant
  untimedLast : event.timestamp = "" → other.timestamp = ""

/-- Timestamps of the same second are written alike, with a fraction or without one, and
no event of the last year of the calendar is among untimed ones. -/
structure SpelledAlike (events : List LogEvent) : Prop where
  fractions : ∀ event ∈ events, ∀ other ∈ events, ∀ first second, Stamped event first →
    Stamped other second → first.seconds = second.seconds →
      (first.time.microsecond = 0 ↔ second.time.microsecond = 0)
  lastYear : ∀ event ∈ events, ∀ other ∈ events, event.timestamp = "" → ∀ utc, Stamped other utc →
    utc.date.year ≠ 9999

/-- Every timestamp is one in UTC, or empty. -/
def Timestamped (events : List LogEvent) : Prop :=
  ∀ event ∈ events, event.timestamp = "" ∨ ∃ utc, Stamped event utc

section

variable {event other : LogEvent} {first second : DateTime} {events : List LogEvent}

theorem utcText_ne_nil (utc : DateTime) : utc.utcText ≠ [] := by
  simp [utcText]

theorem Stamped.timed (stamped : Stamped event first) : event.timestamp ≠ "" := by
  intro untimed
  have same : String.ofList first.utcText = "" := stamped.symm.trans untimed
  have empty := congrArg String.toList same
  rw [String.toList_ofList] at empty
  exact utcText_ne_nil first empty

theorem sortKey_lt_of_text (less : (ofLex (sortKey event)).1 < (ofLex (sortKey other)).1) :
    sortKey event < sortKey other :=
  Prod.Lex.toLex_lt_toLex.mpr (.inl less)

theorem text_le_of_sortKey (atMost : sortKey event ≤ sortKey other) :
    (ofLex (sortKey event)).1 ≤ (ofLex (sortKey other)).1 := by
  by_contra less
  exact absurd atMost (not_le.mpr (sortKey_lt_of_text (not_le.mp less)))

theorem Stamped.key (stamped : Stamped event first) :
    (ofLex (sortKey event)).1 = String.ofList first.utcText := by
  unfold sortKey
  rw [if_neg stamped.timed]
  exact stamped

theorem key_untimed (untimed : event.timestamp = "") : (ofLex (sortKey event)).1 = "9999" := by
  unfold sortKey
  rw [if_pos untimed]
  rfl

theorem ofList_lt_iff {text otherText : List Char} :
    String.ofList text < String.ofList otherText ↔ text < otherText := by
  rw [String.lt_iff_toList_lt, String.toList_ofList, String.toList_ofList]

/-- The text that stands for none, in front of no more digits. -/
theorem untimed_text : "9999" = String.ofList (padded 4 9999 ++ []) := by decide

/-- Only the texts of the last year come after the text that stands for none. -/
theorem untimed_lt_utcText_iff (utc : DateTime) :
    "9999" < String.ofList utc.utcText ↔ utc.date.year = 9999 := by
  have within := utc.date.valid.1.2
  rw [untimed_text, ofList_lt_iff]
  unfold utcText isoformat secondsText
  simp only [List.append_assoc]
  rw [append_lt_append_iff (by simp), padded_lt_iff (by omega) (by omega)]
  constructor
  · rintro (later | ⟨same, _⟩)
    · omega
    · exact (padded_injective (by omega) (by omega) same).symm
  · intro last
    exact .inr ⟨by rw [last], by simp⟩

theorem untimed_ne_utcText (utc : DateTime) : "9999" ≠ String.ofList utc.utcText := by
  intro same
  have texts := congrArg String.toList (untimed_text.symm.trans same)
  rw [String.toList_ofList, String.toList_ofList] at texts
  have lengths := congrArg List.length texts
  simp [utcText, isoformat] at lengths
  omega

/-- Alike texts are in the order of their instants. -/
theorem instant_le_of_utcText_le (alike : first.seconds = second.seconds →
    (first.time.microsecond = 0 ↔ second.time.microsecond = 0))
    (atMost : first.utcText ≤ second.utcText) : first.instant ≤ second.instant := by
  by_contra later
  apply absurd atMost
  rw [not_le, utcText_lt_iff]
  rcases instant_lt_iff.mp (not_le.mp later) with less | ⟨same, less⟩
  · exact .inl less
  · have spelled := alike same.symm
    refine .inr ⟨same, ?_⟩
    unfold fractionRank
    split_ifs with plain otherPlain otherPlain
    · omega
    · exact absurd (spelled.mpr plain) otherPlain
    · exact absurd (spelled.mp otherPlain) plain
    · exact less

/-- Unlike texts of one second are in the reverse order. -/
theorem utcText_lt_of_fraction (same : first.seconds = second.seconds)
    (plain : first.time.microsecond = 0) (fraction : second.time.microsecond ≠ 0) :
    second.utcText < first.utcText ∧ first.instant < second.instant := by
  have small := second.time.valid.2.2.2
  refine ⟨utcText_lt_iff.mpr (.inr ⟨same.symm, ?_⟩), instant_lt_iff.mpr (.inr ⟨same, ?_⟩)⟩
  · unfold fractionRank
    rw [if_pos plain, if_neg fraction]
    exact small
  · omega

/-- The list is in the order of the instants exactly if its timestamps are spelled
alike. -/
theorem timeline_inOrder_iff (timestamped : Timestamped events) :
    (timeline events).Pairwise InOrder ↔ SpelledAlike events := by
  constructor
  · intro ordered
    have before : ∀ event ∈ events, ∀ other ∈ events,
        (ofLex (sortKey event)).1 < (ofLex (sortKey other)).1 → InOrder event other := by
      intro event mem other otherMem less
      exact KeySort.rel_of_key_lt sortKey ordered mem otherMem (sortKey_lt_of_text less)
    have plain : ∀ event ∈ events, ∀ other ∈ events, ∀ first second, Stamped event first →
        Stamped other second → first.seconds = second.seconds →
          first.time.microsecond = 0 → second.time.microsecond = 0 := by
      intro event mem other otherMem first second stamped otherStamped same zero
      by_contra fraction
      rcases utcText_lt_of_fraction same zero fraction with ⟨texts, instants⟩
      have less : (ofLex (sortKey other)).1 < (ofLex (sortKey event)).1 := by
        rw [stamped.key, otherStamped.key, ofList_lt_iff]
        exact texts
      have atMost :=
        (before other otherMem event mem less).instants second first otherStamped stamped
      omega
    refine ⟨?_, ?_⟩
    · intro event mem other otherMem first second stamped otherStamped same
      exact ⟨plain event mem other otherMem first second stamped otherStamped same,
        plain other otherMem event mem second first otherStamped stamped same.symm⟩
    · intro event mem other otherMem untimed utc stamped last
      have less : (ofLex (sortKey event)).1 < (ofLex (sortKey other)).1 := by
        rw [key_untimed untimed, stamped.key]
        exact (untimed_lt_utcText_iff utc).mpr last
      exact stamped.timed ((before event mem other otherMem less).untimedLast untimed)
  · intro alike
    apply (KeySort.pairwise_sorted sortKey events).imp_of_mem
    intro event other mem otherMem atMost
    rw [KeySort.mem_sorted] at mem otherMem
    have texts := text_le_of_sortKey atMost
    refine ⟨?_, ?_⟩
    · intro first second stamped otherStamped
      rw [stamped.key, otherStamped.key, ← not_lt, ofList_lt_iff, not_lt] at texts
      exact instant_le_of_utcText_le
        (alike.fractions event mem other otherMem first second stamped otherStamped) texts
    · intro untimed
      rcases timestamped other otherMem with otherUntimed | ⟨utc, stamped⟩
      · exact otherUntimed
      · rw [key_untimed untimed, stamped.key] at texts
        have less := lt_of_le_of_ne texts (untimed_ne_utcText utc)
        have last := (untimed_lt_utcText_iff utc).mp less
        exact absurd last (alike.lastYear event mem other otherMem untimed utc stamped)

/-- The instant that the timestamp of an event denotes. -/
def timedInstant (event : LogEvent) : Option ℤ :=
  if event.timestamp = "" then none else (readTimestamp event.timestamp).map instantOf

/-- The earliest instant of the events with a name among some. -/
def earliest (names : List String) (events : List LogEvent) : Option ℤ :=
  ((events.filter fun event => event.event ∈ names).filterMap timedInstant).min?

theorem zulu_not_mem_padded (width number : ℕ) : 'Z' ∉ padded width number := by
  intro mem
  exact absurd (isAsciiDigit_padded mem) (by decide)

theorem replaceZulu_utcText (utc : DateTime) :
    replaceZulu utc.utcText = utc.isoformat ++ "+00:00".toList := by
  have plain : 'Z' ∉ utc.isoformat := by
    unfold isoformat secondsText fractionText
    split
    case isTrue => simp [zulu_not_mem_padded]
    case isFalse => simp [zulu_not_mem_padded]
  have split : replaceZulu utc.utcText = replaceZulu utc.isoformat ++ "+00:00".toList := by
    unfold utcText replaceZulu
    rw [List.flatMap_append]
    rfl
  rw [split, replaceZulu_of_not_mem plain]

theorem readTimestamp_stamped (stamped : Stamped event first) :
    readTimestamp event.timestamp = some ⟨first, some 0⟩ := by
  have zone : readZone "+00:00".toList = some (some 0) := by decide
  rw [readTimestamp, stamped, String.toList_ofList, replaceZulu_utcText]
  refine fromisoformat_isoformat first (by decide) ?_ zone
  rintro _ ⟨⟩
  rfl

theorem timedInstant_stamped (stamped : Stamped event first) :
    timedInstant event = some first.instant := by
  rw [timedInstant, if_neg stamped.timed, readTimestamp_stamped stamped]
  simp [instantOf]

theorem firstTimestamp_eq_head (events : List LogEvent) (names : List String) :
    (firstTimestamp events names).map instantOf =
      ((events.filter fun event => event.event ∈ names).filterMap timedInstant).head? := by
  rw [List.filterMap_filter, List.head?_filterMap, firstTimestamp, List.map_findSome?]
  congr 1
  funext event
  unfold timedInstant
  by_cases named : event.event ∈ names
  · by_cases untimed : event.timestamp = ""
    · simp [named, untimed]
    · simp [named, untimed]
  · simp [named]

theorem pairwise_timedInstant (timestamped : Timestamped events)
    (ordered : events.Pairwise InOrder) : (events.filterMap timedInstant).Pairwise (· ≤ ·) := by
  have denoted : ∀ event ∈ events, ∀ instant, timedInstant event = some instant →
      ∃ utc, Stamped event utc ∧ utc.instant = instant := by
    intro event mem instant timed
    rcases timestamped event mem with untimed | ⟨utc, stamped⟩
    · rw [timedInstant, if_pos untimed] at timed
      exact absurd timed (by simp)
    · rw [timedInstant_stamped stamped] at timed
      exact ⟨utc, stamped, Option.some.inj timed⟩
  apply List.pairwise_filterMap.mpr
  apply ordered.imp_of_mem
  intro event other mem otherMem inOrder instant timed otherInstant otherTimed
  rcases denoted event mem instant timed with ⟨first, stamped, rfl⟩
  rcases denoted other otherMem otherInstant otherTimed with ⟨second, otherStamped, rfl⟩
  exact inOrder.instants first second stamped otherStamped

/-- On a list in the order of the instants, the first timestamp is the earliest. -/
theorem firstTimestamp_earliest (timestamped : Timestamped events)
    (ordered : events.Pairwise InOrder) (names : List String) :
    (firstTimestamp events names).map instantOf = earliest names events := by
  have named : Timestamped (events.filter fun event => event.event ∈ names) := by
    intro event mem
    exact timestamped event (List.mem_of_mem_filter mem)
  have instants := pairwise_timedInstant named (ordered.filter _)
  rw [firstTimestamp_eq_head, earliest, List.min?_eq_head?]
  apply instants.imp
  intro first second atMost
  exact min_eq_left atMost

variable {Number : Type} (milliseconds : ℤ → Number)

/-- The time between two instants that are there, unless it is negative. -/
def between (start finish : Option ℤ) : Option Number :=
  start.bind fun start => finish.bind fun finish =>
    if start ≤ finish then some (milliseconds (finish - start)) else none

theorem durationMs_eq_between (events : List LogEvent) (startNames endNames : List String) :
    durationMs milliseconds events startNames endNames =
      between milliseconds ((firstTimestamp events startNames).map instantOf)
        ((firstTimestamp events endNames).map instantOf) := by
  unfold durationMs between
  cases firstTimestamp events startNames with
  | none => simp
  | some start =>
      cases firstTimestamp events endNames with
      | none => simp
      | some finish =>
          dsimp only [Option.map_some, Option.bind_some]
          by_cases late : instantOf finish < instantOf start
          · rw [if_pos late, if_neg (by omega)]
          · rw [if_neg late, if_pos (by omega)]

/-- The written events are in the order of their instants, the first timestamps are the
earliest, and the durations are the differences of these. -/
structure Chronology (outcome : ParserOutcome Number) : Prop where
  ordered : outcome.written.Pairwise InOrder
  first : ∀ names, (firstTimestamp outcome.written names).map instantOf =
    earliest names outcome.written
  durations : ∀ startNames endNames, durationMs milliseconds outcome.written startNames endNames =
    between milliseconds (earliest startNames outcome.written) (earliest endNames outcome.written)
  registration : outcome.summary.registrationDurationMs =
    between milliseconds (earliest ["registration_request"] outcome.written)
      (earliest ["registration_accept"] outcome.written)
  authentication : outcome.summary.authenticationDurationMs =
    between milliseconds (earliest ["authentication"] outcome.written)
      (earliest ["security_mode"] outcome.written)
  pduSession : outcome.summary.pduSessionEstablishmentDurationMs =
    between milliseconds (earliest ["pdu_session_request"] outcome.written)
      (earliest ["pdu_session_accept", "ue_tunnel_created"] outcome.written)

theorem chronology_of_inOrder {warnings : List String} (timestamped : Timestamped events)
    (ordered : (timeline events).Pairwise InOrder) :
    Chronology milliseconds (conclude milliseconds warnings events) := by
  have sorted : Timestamped (timeline events) := by
    intro event mem
    exact timestamped event ((KeySort.mem_sorted sortKey).mp mem)
  have first := firstTimestamp_earliest sorted ordered
  have durations : ∀ startNames endNames,
      durationMs milliseconds (timeline events) startNames endNames =
        between milliseconds (earliest startNames (timeline events))
          (earliest endNames (timeline events)) := by
    intro startNames endNames
    rw [durationMs_eq_between, first, first]
  exact {
    ordered
    first
    durations
    registration := durations _ _
    authentication := durations _ _
    pduSession := durations _ _ }

variable [TextTables] {files : List LogFile}

theorem parseLogFile_timestamped {path : Path} {moments : ParseMoments}
    {found : Except String String} (parsed : parseLogFile path moments found = .ok events) :
    Timestamped events := by
  cases found with
  | error reason => exact absurd parsed (by simp [parseLogFile])
  | ok content =>
      intro event mem
      rcases (parseLines_normalized parsed).2 event mem with untimed | ⟨utc, stamped⟩
      · exact .inl untimed
      · exact .inr ⟨utc, stamped⟩

theorem collectEvents_timestamped {collected : List String × List LogEvent}
    (parsed : collectEvents files = .ok collected) : Timestamped collected.2 := by
  induction files generalizing collected with
  | nil =>
      cases parsed
      simp [Timestamped]
  | cons file files ih =>
      rcases collectEvents_cons_iff.mp parsed with ⟨first, more, found, rest, rfl⟩
      have firstTimestamped : Timestamped first.2 := by
        unfold collectFile at found
        split at found
        · cases found
          simp [Timestamped]
        · rcases Except.bind_ok_iff.mp found with ⟨events, read, same⟩
          cases same
          exact parseLogFile_timestamped read
      intro event mem
      rcases List.mem_append.mp mem with mem | mem
      · exact firstTimestamped event mem
      · exact ih rest event mem

/-- The timeline that the command writes is in chronological order exactly if the
parsed timestamps are spelled alike. -/
theorem parserMain_chronology_iff {outcome : ParserOutcome Number}
    {collected : List String × List LogEvent} (parsed : collectEvents files = .ok collected)
    (ran : parserMain milliseconds files = .ok outcome) :
    Chronology milliseconds outcome ↔ SpelledAlike collected.2 := by
  have timestamped := collectEvents_timestamped parsed
  have written : outcome = conclude milliseconds collected.1 collected.2 := by
    unfold parserMain at ran
    rw [parsed] at ran
    cases ran
    rfl
  rw [written, ← timeline_inOrder_iff timestamped]
  exact ⟨Chronology.ordered, chronology_of_inOrder milliseconds timestamped⟩

omit [TextTables] in
/-- A timestamp without a point has no fraction. -/
theorem Stamped.whole {event : LogEvent} {utc : DateTime} (stamped : Stamped event utc)
    (plain : '.' ∉ event.timestamp.toList) : utc.time.microsecond = 0 := by
  by_contra fraction
  apply plain
  rw [stamped, String.toList_ofList, utcText, isoformat, fractionText, if_neg fraction]
  simp

omit [TextTables] in
/-- Timestamps without fractions are spelled alike, also in several files. -/
theorem parserMain_chronology_rotated : ∃ collected outcome,
    @collectEvents asciiTextTables [amfLog, rotatedLog] = .ok collected ∧
      @parserMain ℤ id asciiTextTables [amfLog, rotatedLog] = .ok outcome ∧
        SpelledAlike collected.2 ∧ Chronology id outcome := by
  rcases collectEvents_rotated with ⟨collected, parsed, stamps⟩
  have ran : @parserMain ℤ id asciiTextTables [amfLog, rotatedLog] =
      .ok (conclude id collected.1 collected.2) :=
    Except.bind_ok_iff.mpr ⟨collected, parsed, rfl⟩
  have whole : ∀ event ∈ collected.2, event.timestamp ≠ "" ∧ '.' ∉ event.timestamp.toList := by
    intro event member
    have listed := List.mem_map_of_mem (f := LogEvent.timestamp) member
    rw [stamps] at listed
    have all : ∀ stamp ∈ ["2025-01-01T00:00:05Z", "2025-01-01T00:00:06Z",
        "2025-01-01T00:00:05Z"], stamp ≠ "" ∧ '.' ∉ stamp.toList := by
      decide
    exact all _ listed
  have alike : SpelledAlike collected.2 := by
    constructor
    · intro event member other otherMember first second stamped otherStamped _
      exact iff_of_true (stamped.whole (whole event member).2)
        (otherStamped.whole (whole other otherMember).2)
    · intro event member other _ untimed
      exact absurd untimed (whole event member).1
  exact ⟨collected, _, parsed, ran, alike,
    (@parserMain_chronology_iff ℤ id asciiTextTables _ _ _ parsed ran).mpr alike⟩

omit [TextTables] in
/-- The later of the two lines comes first. -/
theorem parserMain_halfSecond_reversed : ∃ outcome,
    @parserMain ℤ id asciiTextTables [halfSecondLog, missingLog] = .ok outcome ∧
      ¬Chronology id outcome := by
  rcases collectEvents_halfSecond with ⟨collected, parsed, stamps⟩
  refine ⟨conclude id collected.1 collected.2, Except.bind_ok_iff.mpr ⟨collected, parsed, rfl⟩, ?_⟩
  intro chronology
  have timestamped := @collectEvents_timestamped asciiTextTables _ _ parsed
  have alike := (timeline_inOrder_iff timestamped).mp chronology.ordered
  obtain ⟨event, other, written⟩ : ∃ event other, collected.2 = [event, other] := by
    have two := congrArg List.length stamps
    rw [List.length_map] at two
    exact List.length_eq_two.mp two
  rw [written] at stamps alike
  simp only [List.map_cons, List.map_nil, List.cons.injEq, and_true] at stamps
  have stamped : Stamped event ⟨⟨2025, 1, 1, by decide⟩, ⟨0, 0, 5, 0, by decide⟩⟩ := by
    rw [Stamped, stamps.1]
    decide
  have otherStamped : Stamped other ⟨⟨2025, 1, 1, by decide⟩, ⟨0, 0, 5, 500000, by decide⟩⟩ := by
    rw [Stamped, stamps.2]
    decide
  have same := alike.fractions event (by simp) other (by simp) _ _ stamped otherStamped rfl
  exact absurd (same.mp rfl) (by decide)

end

end FivegLab.LogParser
