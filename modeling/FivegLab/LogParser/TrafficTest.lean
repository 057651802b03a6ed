import FivegLab.LogParser.Spelling
import FivegLab.Lines

/-!
# The messages of the traffic test

`scripts/traffic_test.sh` and what the log parser makes of the file that it writes
when the UE is not there.  Its message about the settings names the tunnel
interface, which the parser takes for an event.
-/

namespace FivegLab.LogParser

open Calendar DateTime
open Regex hiding some

/-- The environment of the script, with its defaults filled in. -/
structure TrafficSettings where
  target : String
  count : String
  ueTunnel : String

/-- What the script meets: the time of each message, and what its commands do.  A
command whose output goes to the file has that output and its exit status. -/
structure TrafficSurroundings where
  moment : ℕ → DateTime
  dockerFound : Bool
  ueRunning : Bool
  interfaces : String × ℕ
  tunnelShown : Bool
  routes : String × ℕ
  pingFound : Bool
  ping : String × ℕ
  iperfFound : Bool

/-- The file that the script writes, and its exit code. -/
structure TrafficRun where
  output : String
  exitCode : ℕ
  deriving DecidableEq, Repr

/-- `[time] `, in front of a message. -/
def stampText (moment : DateTime) : List Char := '[' :: (moment.secondsText ++ ['Z', ']', ' '])

/-- `log`, in the file. -/
def logLine (moment : DateTime) (message : String) : String :=
  String.ofList (stampText moment) ++ message ++ "\n"

def settingsMessage (settings : TrafficSettings) : String :=
  s!"Target={settings.target}, Count={settings.count}, UE_TUNNEL={settings.ueTunnel}"

def notRunning : String :=
  "ERROR: UERANSIM UE container is not running. " ++
    "Start with: docker compose --profile ran up -d gnb ue"

def notVisible : String :=
  "ERROR: UE tunnel interface not visible. Check UE registration/PDU session logs."

def pingFailed : String :=
  "USER_PLANE_FAILURE: ping failed. " ++
    "Check UPF NAT/forwarding, UE route, and PDU session status."

def trafficTest (settings : TrafficSettings) (world : TrafficSurroundings) : TrafficRun :=
  let log := fun place message => logLine (world.moment place) message
  let output := log 0 "Starting UE user-plane traffic test." ++ log 1 (settingsMessage settings)
  if !world.dockerFound then ⟨output ++ log 2 "ERROR: docker is required.", 1⟩
  else if !world.ueRunning then
    ⟨output ++ log 2 notRunning, 1⟩
  else
    let output := output ++ log 2 "Inspecting UE network interfaces." ++ world.interfaces.1
    -- a failed pipeline ends the script, with its status
    if world.interfaces.2 ≠ 0 then ⟨output, world.interfaces.2⟩
    else if !world.tunnelShown then
      ⟨output ++ log 3 notVisible, 2⟩
    else
      let output := output ++ log 3 "Inspecting UE routes." ++ world.routes.1
      if world.routes.2 ≠ 0 then ⟨output, world.routes.2⟩
      else if !world.pingFound then
        ⟨output ++ log 4 "ERROR: ping is not installed in the UE image.", 3⟩
      else
        let output := output ++ log 4 "Running interface-bound ping over UE tunnel." ++ world.ping.1
        if world.ping.2 ≠ 0 then
          ⟨output ++ log 5 pingFailed, 4⟩
        else
          let iperf :=
            if world.iperfFound then
              "iperf3 found. Run manually with an external/server-side iperf3 target when needed."
            else "iperf3 not installed in UE image; skipping throughput test."
          ⟨output ++ log 5 iperf ++
            log 6 "USER_PLANE_SUCCESS: traffic test completed successfully.", 0⟩

/-- A character of a stamp that is no letter. -/
def isStampMark (c : Char) : Bool := isAsciiDigit c || c ∈ ['-', ':', '[', ']', ' ']

/-- A mark follows every letter. -/
def isSparse : List Char → Bool
  | [] => true
  | c :: rest => (isStampMark c || rest.head?.any isStampMark) && isSparse rest

theorem isSparse_append {marks rest : List Char} (all : ∀ c ∈ marks, isStampMark c) :
    isSparse (marks ++ rest) = isSparse rest := by
  induction marks with
  | nil => rfl
  | cons c marks ih =>
      rw [List.forall_mem_cons] at all
      simp [isSparse, all.1, ih all.2]

theorem isStampMark_padded {width number : ℕ} {c : Char} (mem : c ∈ padded width number) :
    isStampMark c := by
  simp [isStampMark, isAsciiDigit_padded mem]

theorem isSparse_stampText (moment : DateTime) : isSparse (stampText moment) := by
  have digits : ∀ width number rest, isSparse (padded width number ++ rest) = isSparse rest :=
    fun _ _ _ => isSparse_append fun _ => isStampMark_padded
  have mark : ∀ c ∈ ['-', ':', '[', ']', ' '], ∀ rest, isSparse (c :: rest) = isSparse rest := by
    intro c mem rest
    simp [isSparse, isStampMark, mem]
  have hour : (padded 2 moment.time.hour ++ (':' :: (padded 2 moment.time.minute ++ (':' ::
      (padded 2 moment.time.second ++ ['Z', ']', ' ']))))).head?.any isStampMark = true := by
    have mem : Nat.digitChar (moment.time.hour / 10 % 10) ∈ padded 2 moment.time.hour := by
      simp [padded]
    have first := isStampMark_padded mem
    simpa [padded] using first
  have day : isSparse ('T' :: (padded 2 moment.time.hour ++ (':' :: (padded 2 moment.time.minute ++
      (':' :: (padded 2 moment.time.second ++ ['Z', ']', ' '])))))) := by
    rw [isSparse, hour, digits, mark ':' (by simp), digits, mark ':' (by simp), digits]
    decide
  unfold stampText secondsText
  simp only [List.append_assoc, List.cons_append]
  rw [mark '[' (by simp), digits, mark '-' (by simp), digits, mark '-' (by simp), digits]
  exact day

theorem sparse_next {text start more : List Char} {c : Char} (sparse : isSparse text)
    (split : text = start ++ c :: more) (letter : isStampMark c = false) :
    ∃ d rest, more = d :: rest ∧ isStampMark d := by
  induction start generalizing text with
  | nil =>
      rw [split, List.nil_append, isSparse, letter, Bool.false_or, Bool.and_eq_true] at sparse
      cases more with
      | nil => exact absurd sparse.1 (by decide)
      | cons d rest => exact ⟨d, rest, rfl, by simpa using sparse.1⟩
  | cons first start ih =>
      rw [split, List.cons_append, isSparse, Bool.and_eq_true] at sparse
      exact ih sparse.2 rfl

/-- Every match begins with two letters. -/
def BeginsWithLetters (regex : Regex) : Prop :=
  ∀ before taken rest, regex.Matches before taken rest →
    ∃ c d more, taken = c :: d :: more ∧ isStampMark c = false ∧ isStampMark d = false

/-- A search passes the stamp. -/
theorem search_stampText {regex : Regex} (letters : BeginsWithLetters regex) (moment : DateTime)
    (text : List Char) :
    regex.search (stampText moment ++ text) = regex.searchFrom (some ' ') text := by
  have last : lastOf none (stampText moment) = some ' ' := by
    simp [stampText, lastOf, List.getLast?_cons]
  rw [search, searchFrom_append, last]
  intro start c more split taken rest same matched
  rcases letters _ _ _ matched with ⟨_, d, tail, rfl, letter, next⟩
  rw [List.cons_append, List.cons.injEq] at same
  rcases same with ⟨rfl, same⟩
  rcases sparse_next (isSparse_stampText moment) split letter with ⟨e, others, rfl, mark⟩
  rw [List.cons_append, List.cons_append, List.cons.injEq] at same
  rw [same.1, next] at mark
  exact absurd mark (by decide)

/-- A letter of a literal, which no mark of a stamp is like. -/
def isPatternLetter (c : Char) : Bool :=
  !isStampMark c && !isStampMark (FieldPattern.foldCase c)

theorem foldCase_mark {c : Char} (mark : isStampMark c) : FieldPattern.foldCase c = c := by
  simp only [isStampMark, Bool.or_eq_true, decide_eq_true_iff] at mark
  rcases mark with digit | mem
  · have last : c.toNat ≤ 57 := by
      unfold isAsciiDigit asciiDigit at digit
      split at digit
      next within => exact within.2
      next => exact absurd digit (by decide)
    have notUpper : ¬('A' ≤ c ∧ c ≤ 'Z') := by
      rintro ⟨upper, _⟩
      have atLeast : 65 ≤ c.toNat := upper
      omega
    unfold FieldPattern.foldCase Text.lowerChar
    rw [if_neg (by omega), if_neg (by omega), if_neg (by omega), if_neg notUpper]
  · have others : ['-', ':', '[', ']', ' '].all fun c => FieldPattern.foldCase c = c := by decide
    exact of_decide_eq_true (List.all_eq_true.mp others c mem)

theorem not_isStampMark_of_alike {c d : Char} (letter : isPatternLetter c) (same : alike c d) :
    isStampMark d = false := by
  rw [Bool.eq_false_iff]
  intro mark
  have folded := foldCase_mark mark
  simp only [isPatternLetter, Bool.and_eq_true, Bool.not_eq_true'] at letter
  simp only [alike, folded, Bool.or_eq_true, decide_eq_true_iff] at same
  rcases same with rfl | same
  · rw [mark] at letter
    exact absurd letter.1 (by decide)
  · rw [same, mark] at letter
    exact absurd letter.2 (by decide)

theorem beginsWithLetters_text {part : String} {c d : Char} {rest : List Char}
    (chars : part.toList = c :: d :: rest) (letter : isPatternLetter c)
    (next : isPatternLetter d) : BeginsWithLetters (text part) := by
  intro before taken more matched
  rw [text, chars] at matched
  simp only [literal, matches_sequence_iff, matches_one_iff] at matched
  rcases matched with ⟨_, _, rfl, ⟨e, rfl, first⟩, _, tail, rfl, ⟨f, rfl, second⟩, _⟩
  exact ⟨e, f, tail, rfl, not_isStampMark_of_alike letter first,
    not_isStampMark_of_alike next second⟩

theorem beginsWithLetters_either {first second : Regex} (letters : BeginsWithLetters first)
    (otherLetters : BeginsWithLetters second) : BeginsWithLetters (either first second) := by
  intro before taken rest matched
  rcases matches_either_iff.mp matched with matched | matched
  · exact letters _ _ _ matched
  · exact otherLetters _ _ _ matched

theorem beginsWithLetters_sequence {first second : Regex} (letters : BeginsWithLetters first) :
    BeginsWithLetters (sequence first second) := by
  intro before taken rest matched
  rcases matches_sequence_iff.mp matched with ⟨_, more, rfl, matchedFirst, _⟩
  rcases letters _ _ _ matchedFirst with ⟨c, d, tail, rfl, letter, next⟩
  exact ⟨c, d, tail ++ more, rfl, letter, next⟩

theorem beginsWithLetters_oneOf {first : Regex} {rest : List Regex}
    (letters : BeginsWithLetters first) (others : ∀ regex ∈ rest, BeginsWithLetters regex) :
    BeginsWithLetters (oneOf first rest) := by
  induction rest generalizing first with
  | nil => exact letters
  | cons second rest ih =>
      rw [List.forall_mem_cons] at others
      exact beginsWithLetters_either letters (ih others.1 others.2)

variable [TextTables]

/-- A word boundary takes nothing. -/
theorem beginsWithLetters_bounded {second : Regex} (letters : BeginsWithLetters second) :
    BeginsWithLetters (sequence wordBoundary second) := by
  intro before taken rest matched
  rcases matches_sequence_iff.mp matched with ⟨_, more, rfl, boundary, matchedSecond⟩
  cases boundary
  exact letters _ _ _ matchedSecond

theorem positive_beginsWithLetters {event : String} {pattern : Regex}
    (mem : (event, pattern) ∈ eventPatterns) (positive : event ∈ positiveEvents) :
    BeginsWithLetters pattern := by
  have letters : ∀ {part : String} {c d : Char} {rest : List Char}, part.toList = c :: d :: rest →
      isPatternLetter c → isPatternLetter d → BeginsWithLetters (text part) :=
    beginsWithLetters_text
  simp only [eventPatterns, List.mem_cons, Prod.mk.injEq, List.not_mem_nil, or_false] at mem
  rcases mem with ⟨rfl, rfl⟩ | ⟨rfl, rfl⟩ | ⟨rfl, rfl⟩ | ⟨rfl, rfl⟩ | ⟨rfl, rfl⟩ | ⟨rfl, rfl⟩ |
    ⟨rfl, rfl⟩ | ⟨rfl, rfl⟩ | ⟨rfl, rfl⟩ | ⟨rfl, rfl⟩ | ⟨rfl, rfl⟩ | ⟨rfl, rfl⟩ | ⟨rfl, rfl⟩ |
    ⟨rfl, rfl⟩ | ⟨rfl, rfl⟩ | ⟨rfl, rfl⟩ | ⟨rfl, rfl⟩ | ⟨rfl, rfl⟩ | ⟨rfl, rfl⟩
  · exact beginsWithLetters_bounded (beginsWithLetters_sequence (letters rfl rfl rfl))
  · exact absurd positive (by decide)
  · exact absurd positive (by decide)
  · exact beginsWithLetters_bounded (beginsWithLetters_sequence (letters rfl rfl rfl))
  · exact beginsWithLetters_bounded (beginsWithLetters_sequence (letters rfl rfl rfl))
  · exact absurd positive (by decide)
  · apply beginsWithLetters_bounded (beginsWithLetters_oneOf (letters rfl rfl rfl) ?_)
    simp only [List.forall_mem_cons, List.not_mem_nil, false_implies, implies_true, and_true]
    exact ⟨letters rfl rfl rfl, letters rfl rfl rfl, letters rfl rfl rfl, letters rfl rfl rfl,
      letters rfl rfl rfl⟩
  · exact absurd positive (by decide)
  · exact absurd positive (by decide)
  · apply beginsWithLetters_bounded (beginsWithLetters_oneOf (letters rfl rfl rfl) ?_)
    simp only [List.forall_mem_cons, List.not_mem_nil, false_implies, implies_true, and_true]
    exact ⟨letters rfl rfl rfl, letters rfl rfl rfl, letters rfl rfl rfl,
      beginsWithLetters_sequence (letters rfl rfl rfl)⟩
  · exact absurd positive (by decide)
  · exact absurd positive (by decide)
  · exact absurd positive (by decide)
  · apply beginsWithLetters_bounded (beginsWithLetters_oneOf
      (beginsWithLetters_sequence (letters rfl rfl rfl)) ?_)
    simp only [List.forall_mem_cons, List.not_mem_nil, false_implies, implies_true, and_true]
    exact ⟨letters rfl rfl rfl, letters rfl rfl rfl, letters rfl rfl rfl, letters rfl rfl rfl,
      beginsWithLetters_sequence (letters rfl rfl rfl)⟩
  · apply beginsWithLetters_bounded (beginsWithLetters_oneOf (letters rfl rfl rfl) ?_)
    simp only [List.forall_mem_cons, List.not_mem_nil, false_implies, implies_true, and_true]
    exact ⟨beginsWithLetters_sequence (letters rfl rfl rfl), letters rfl rfl rfl⟩
  · exact absurd positive (by decide)
  · exact absurd positive (by decide)
  · exact absurd positive (by decide)
  · exact absurd positive (by decide)

/-- The line has no positive event. -/
def Silent (line : String) : Prop := ∀ event ∈ classifyEvents line, event ∉ positiveEvents

theorem silent_iff {line : String} : Silent line ↔
    ∀ event pattern, (event, pattern) ∈ eventPatterns →
    event ∈ positiveEvents → pattern.Found line.toList → negativeOutcome.Found line.toList := by
  unfold Silent classifyEvents
  simp only [List.mem_filterMap, Prod.exists]
  constructor
  · intro silent event pattern mem positive found
    by_contra negative
    exact silent event ⟨event, pattern, mem, by simp [found, negative]⟩ positive
  · rintro negated event ⟨name, pattern, mem, selected⟩ positive
    split at selected
    next reported =>
      cases selected
      exact reported.2 ⟨positive, negated event pattern mem positive reported.1⟩
    next => exact absurd selected (by simp)

theorem silent_iff_eventNames {line : String} :
    Silent line ↔ ∀ event ∈ eventNames line, event ∉ positiveEvents := by
  unfold eventNames Silent
  split
  next unclassified =>
    rw [unclassified.1]
    simp [positiveEvents]
  next => rfl

/-- No positive pattern is found in a message after a space. -/
def messageSilent (message : String) : Bool :=
  eventPatterns.all fun (event, pattern) =>
    event ∉ positiveEvents || (pattern.searchFrom (some ' ') message.toList).isNone

theorem silent_log {message : String} (quiet : messageSilent message) (moment : DateTime) :
    Silent (String.ofList (stampText moment ++ message.toList)) := by
  rw [silent_iff]
  intro event pattern mem positive found
  have passed := search_stampText (positive_beginsWithLetters mem positive) moment message.toList
  have none := List.all_eq_true.mp quiet (event, pattern) mem
  simp only [positive, not_true_eq_false, decide_false, Bool.false_or, Option.isNone_iff_eq_none]
    at none
  rw [Found, String.toList_ofList, passed, none] at found
  exact absurd found (by simp)

/-- A message is on one line. -/
def isPlain (message : String) : Bool := message.toList.all fun c => !Text.isLineBreak c

omit [TextTables] in
theorem isPlain_iff {message : String} :
    isPlain message ↔ ∀ c ∈ message.toList, Text.isLineBreak c = false := by
  simp [isPlain]

omit [TextTables] in
theorem toList_logLine (moment : DateTime) (message : String) :
    (logLine moment message).toList = (stampText moment ++ message.toList) ++ ['\n'] := by
  simp [logLine]

omit [TextTables] in
theorem isLineBreak_padded {width number : ℕ} {c : Char} (mem : c ∈ padded width number) :
    Text.isLineBreak c = false := by
  have digit := isAsciiDigit_padded mem
  unfold isAsciiDigit asciiDigit at digit
  split at digit
  next within =>
    have first : 48 ≤ c.toNat := within.1
    have last : c.toNat ≤ 57 := within.2
    simp [Text.isLineBreak]
    omega
  next => exact absurd digit (by decide)

omit [TextTables] in
theorem stampText_plain (moment : DateTime) : ∀ c ∈ stampText moment,
    Text.isLineBreak c = false := by
  intro c mem
  simp only [stampText, secondsText, List.mem_cons, List.mem_append, List.not_mem_nil,
    or_false] at mem
  rcases mem with rfl | (mem | rfl | mem | rfl | mem | rfl | mem | rfl | mem | rfl | mem) |
    rfl | rfl | rfl
  · decide
  · exact isLineBreak_padded mem
  · decide
  · exact isLineBreak_padded mem
  · decide
  · exact isLineBreak_padded mem
  · decide
  · exact isLineBreak_padded mem
  · decide
  · exact isLineBreak_padded mem
  · decide
  · exact isLineBreak_padded mem
  · decide
  · decide
  · decide

omit [TextTables] in
/-- A message without line breaks is one line of the file. -/
theorem splitlines_logLine {message : String}
    (plain : ∀ c ∈ message.toList, Text.isLineBreak c = false) (moment : DateTime) (rest : String) :
    Text.splitlines (logLine moment message ++ rest) =
      String.ofList (stampText moment ++ message.toList) :: Text.splitlines rest := by
  have whole : ∀ c ∈ stampText moment ++ message.toList, Text.isLineBreak c = false := by
    intro c mem
    rcases List.mem_append.mp mem with mem | mem
    · exact stampText_plain moment c mem
    · exact plain c mem
  unfold Text.splitlines
  rw [String.toList_append, toList_logLine, List.append_assoc, List.singleton_append,
    Text.splitLinesChars_newline, Text.splitLinesChars_line whole]
  rfl

omit [TextTables] in
theorem splitlines_logLine_append (moment : DateTime) (message rest : String) :
    Text.splitlines (logLine moment message ++ rest) =
      Text.splitlines (logLine moment message) ++ Text.splitlines rest := by
  unfold Text.splitlines
  rw [String.toList_append, toList_logLine, List.append_assoc, List.singleton_append,
    Text.splitLinesChars_newline, List.map_append]

/-- A line that begins with a stamp is read at the time of its stamp. -/
theorem representable_stamped (moment : DateTime) (message : List Char) :
    Representable (String.ofList (stampText moment ++ message)) := by
  have written : moment.secondsText ++ ['Z'] = spelled moment 'T'
      (Spelling.printedFraction 0 0 moment.time.microsecond ++
        ((none : Option Offset).map Offset.text).getD ['Z']) := secondsText_append moment _
  have bracket : rfc3339.regex.search (stampText moment ++ message) =
      rfc3339.regex.searchFrom (some '[')
        ((moment.secondsText ++ ['Z']) ++ ([']', ' '] ++ message)) := by
    have split : stampText moment ++ message =
        ['['] ++ ((moment.secondsText ++ ['Z']) ++ ([']', ' '] ++ message)) := by
      simp [stampText]
    rw [search, split, searchFrom_append]
    · rfl
    intro start c more first taken rest same matched
    obtain ⟨rfl, rfl, rfl⟩ : start = [] ∧ c = '[' ∧ more = [] := by
      simpa [List.singleton_eq_append_iff] using first
    rcases matches_rfc3339_iff.mp matched with ⟨_, _, _, _, rfl, ⟨year, _, _, rfl, years, _⟩, _⟩
    obtain ⟨digit, tail, rfl⟩ : ∃ digit tail, year = digit :: tail := by
      apply List.exists_cons_of_ne_nil
      apply List.ne_nil_of_length_pos
      rw [years.length]
      decide
    have head := (List.cons.inj same).1
    exact ne_of_isDecimal (years.digits digit List.mem_cons_self) (by decide) head.symm
  have found : rfc3339.regex.search (stampText moment ++ message) =
      some (moment.secondsText ++ ['Z']) := by
    rw [bracket]
    exact searchFrom_of_unique (matches_rfc3339 written _) fun _ _ same other =>
      rfc3339_unique same (matches_rfc3339 written _) other
  intro parsed read
  rw [readRfc3339, String.toList_ofList, found, Option.bind_some, fromisoformat_rfc3339 written]
    at read
  cases read
  exact ⟨cut 0 moment, by simp [instantOf]⟩

omit [TextTables] in
theorem matches_text_self (part : String) (before : Option Char) (rest : List Char) :
    (text part).Matches before part.toList rest := by
  unfold text
  generalize part.toList = chars
  induction chars generalizing before with
  | nil => exact .nothing
  | cons c chars ih =>
      have same : alike c c := by simp [alike]
      exact matches_sequence_iff.mpr ⟨[c], chars, rfl, .one same, ih _⟩

/-- The message names the interface after an equals sign, so a word begins there. -/
theorem tunnel_found (start : List Char) : ∃ pattern,
    ("ue_tunnel_created", pattern) ∈ eventPatterns ∧
      pattern.Found (start ++ "UE_TUNNEL=uesimtun0".toList) := by
  have last : lastOf none (start ++ "UE_TUNNEL=".toList) = some '=' := by
    rw [lastOf, List.getLast?_append_of_ne_nil _ (by simp)]
    rfl
  have zero : isDecimal '0' = true := isDecimal_of_ascii (by decide)
  refine ⟨word (sequence (text "uesimtun") (many isDecimal))
    [text "TUN interface", text "UE IP", text "PDU Address", text "IPv4 address",
      all [text "allocated", anything, text "address"]], by simp [eventPatterns], ?_⟩
  refine found_iff.mpr ⟨start ++ "UE_TUNNEL=".toList, "uesimtun".toList ++ ['0'], [], ?_, ?_⟩
  · simp
  · rw [last]
    refine matches_sequence_iff.mpr ⟨[], _, rfl, .boundary rfl, .left ?_⟩
    exact matches_sequence_iff.mpr ⟨_, _, rfl, matches_text_self _ _ _, .many (by simp [zero])⟩

/-- The lines of the message about the settings, in the file. -/
def settingsLines (settings : TrafficSettings) (world : TrafficSurroundings) : List String :=
  Text.splitlines (logLine (world.moment 1) (settingsMessage settings))

/-- The last line of the message, the one with the interface, also tells of a negative
outcome, and the lines in front of it have no positive event. -/
structure SettingsNegated (settings : TrafficSettings) (world : TrafficSurroundings) : Prop where
  last : ∀ line ∈ (settingsLines settings world).getLast?, negativeOutcome.Found line.toList
  earlier : ∀ line ∈ (settingsLines settings world).dropLast, Silent line

omit [TextTables] in
theorem settingsLines_ne_nil (settings : TrafficSettings) (world : TrafficSurroundings) :
    settingsLines settings world ≠ [] := by
  unfold settingsLines Text.splitlines
  rw [toList_logLine, Ne, List.map_eq_nil_iff]
  exact Text.splitLinesChars_ne_nil (by simp)

theorem settingsLines_silent_iff {settings : TrafficSettings} {world : TrafficSurroundings}
    (tunnel : settings.ueTunnel = "uesimtun0") :
    (∀ line ∈ settingsLines settings world, Silent line) ↔ SettingsNegated settings world := by
  obtain ⟨earlier, start, lines⟩ : ∃ earlier start, settingsLines settings world =
      earlier ++ [String.ofList (start ++ "UE_TUNNEL=uesimtun0".toList)] := by
    have chars : (logLine (world.moment 1) (settingsMessage settings)).toList =
        (stampText (world.moment 1) ++
          s!"Target={settings.target}, Count={settings.count}, ".toList) ++
            ("UE_TUNNEL=uesimtun0".toList ++ ['\n']) := by
      rw [toList_logLine, settingsMessage, tunnel]
      simp
      rfl
    have plain := isPlain_iff.mp (by decide : isPlain "UE_TUNNEL=uesimtun0")
    obtain ⟨earlier, start, lines⟩ := Text.splitLinesChars_append plain (by decide)
      (stampText (world.moment 1) ++ s!"Target={settings.target}, Count={settings.count}, ".toList)
    refine ⟨earlier.map String.ofList, start, ?_⟩
    rw [settingsLines, Text.splitlines, chars, lines, List.map_append]
    rfl
  rcases tunnel_found start with ⟨pattern, mem, found⟩
  have lastSilent : Silent (String.ofList (start ++ "UE_TUNNEL=uesimtun0".toList)) ↔
      negativeOutcome.Found (String.ofList (start ++ "UE_TUNNEL=uesimtun0".toList)).toList := by
    rw [silent_iff]
    constructor
    · intro silent
      exact silent _ pattern mem (by decide) (by rwa [String.toList_ofList])
    · intro negative _ _ _ _ _
      exact negative
  have parts : (settingsLines settings world).getLast? =
      some (String.ofList (start ++ "UE_TUNNEL=uesimtun0".toList)) ∧
        (settingsLines settings world).dropLast = earlier := by
    rw [lines]
    simp
  constructor
  · intro silent
    refine ⟨?_, ?_⟩
    · rw [parts.1]
      rintro _ ⟨⟩
      exact lastSilent.mp (silent _ (by simp [lines]))
    · rw [parts.2]
      intro line mem
      exact silent line (by simp [lines, mem])
  · rintro ⟨last, before⟩ line mem
    rw [lines, List.mem_append, List.mem_singleton] at mem
    rw [parts.1] at last
    rw [parts.2] at before
    rcases mem with mem | rfl
    · exact before line mem
    · exact lastSilent.mpr (last _ rfl)

/-- Docker, the UE container, or the tunnel interface is missing. -/
def UeAbsent (world : TrafficSurroundings) : Prop :=
  world.dockerFound = false ∨ world.ueRunning = false ∨ world.tunnelShown = false

/-- What the container printed into the file, with the message that follows it. -/
def containerOutput (world : TrafficSurroundings) : String :=
  if world.dockerFound = false ∨ world.ueRunning = false then ""
  else if world.interfaces.2 ≠ 0 then world.interfaces.1
  else world.interfaces.1 ++ logLine (world.moment 3) notVisible

/-- The messages in front of the container's output, besides the settings. -/
def earlyMessages : List String :=
  ["Starting UE user-plane traffic test.", "ERROR: docker is required.",
    notRunning,
    "Inspecting UE network interfaces."]

omit [TextTables] in
theorem earlyMessages_plain :
    ∀ message ∈ earlyMessages, ∀ c ∈ message.toList, Text.isLineBreak c = false := by
  have all : ∀ message ∈ earlyMessages, isPlain message := by decide
  exact fun message mem => isPlain_iff.mp (all message mem)

set_option maxRecDepth 20000 in
theorem earlyMessages_silent : ∀ message ∈ earlyMessages, messageSilent message := by
  simp only [earlyMessages, List.forall_mem_cons, List.not_mem_nil, false_implies, implies_true,
    and_true]
  exact ⟨rfl, rfl, rfl, rfl⟩

omit [TextTables] in
theorem trafficTest_output (settings : TrafficSettings) {world : TrafficSurroundings}
    (absent : UeAbsent world) : ∃ message ∈ earlyMessages, (trafficTest settings world).output =
      logLine (world.moment 0) "Starting UE user-plane traffic test." ++
        (logLine (world.moment 1) (settingsMessage settings) ++
          (logLine (world.moment 2) message ++ containerOutput world)) := by
  unfold UeAbsent at absent
  unfold trafficTest containerOutput
  cases docker : world.dockerFound with
  | false =>
      exact ⟨"ERROR: docker is required.", by simp [earlyMessages], by simp [String.append_assoc]⟩
  | true =>
      cases running : world.ueRunning with
      | false => exact ⟨notRunning, by simp [earlyMessages], by simp [String.append_assoc]⟩
      | true =>
          have hidden : world.tunnelShown = false := by simpa [docker, running] using absent
          refine ⟨"Inspecting UE network interfaces.", by simp [earlyMessages], ?_⟩
          by_cases failed : world.interfaces.2 = 0
          · simp [failed, hidden, String.append_assoc]
          · simp [failed, String.append_assoc]

theorem trafficTest_lines {settings : TrafficSettings} {world : TrafficSurroundings}
    (tunnel : settings.ueTunnel = "uesimtun0") (absent : UeAbsent world) :
    (∀ line ∈ Text.splitlines (trafficTest settings world).output, Silent line) ↔
      SettingsNegated settings world ∧
        ∀ line ∈ Text.splitlines (containerOutput world), Silent line := by
  have first : "Starting UE user-plane traffic test." ∈ earlyMessages := List.mem_cons_self
  rcases trafficTest_output settings absent with ⟨message, mem, output⟩
  have starting := silent_log (earlyMessages_silent _ first) (world.moment 0)
  have stopping := silent_log (earlyMessages_silent message mem) (world.moment 2)
  rw [output, splitlines_logLine (earlyMessages_plain _ first), splitlines_logLine_append,
    splitlines_logLine (earlyMessages_plain message mem), ← settingsLines_silent_iff tunnel]
  simp only [List.forall_mem_cons, List.forall_mem_append, starting, stopping, true_and]
  rfl

theorem expectedEvents_silent_iff (lineNumber : ℕ) {lines : List String} :
    (∀ expected ∈ expectedEvents lineNumber lines, expected.2 ∉ positiveEvents) ↔
      ∀ line ∈ lines, Silent line := by
  induction lines generalizing lineNumber with
  | nil => simp [expectedEvents]
  | cons line lines ih =>
      rw [expectedEvents, List.forall_mem_append, ih, List.forall_mem_cons, List.forall_mem_map,
        silent_iff_eventNames]

/-- A parsed file has no positive event exactly if its lines have none. -/
theorem parsed_silent_iff {moments : ParseMoments} {path : Path} {content : String}
    {events : List LogEvent} (parsed : parseFile moments path content = .ok events) :
    (∀ event ∈ events, event.event ∉ positiveEvents) ↔
      ∀ line ∈ Text.splitlines content, Silent line := by
  have names := (parseLines_normalized parsed).1
  rw [← expectedEvents_silent_iff 1, ← names, List.forall_mem_map]

/-- A run without the UE whose message about the settings tells of no negative outcome
leaves a positive event, when its lines can be parsed. -/
theorem trafficTest_reports_tunnel {settings : TrafficSettings} {world : TrafficSurroundings}
    (moments : ParseMoments) (path : Path) (tunnel : settings.ueTunnel = "uesimtun0")
    (absent : UeAbsent world)
    (representable : ∀ line ∈ Text.splitlines (trafficTest settings world).output,
      Representable line)
    (unnegated : ∀ line ∈ (settingsLines settings world).getLast?,
      ¬negativeOutcome.Found line.toList) :
    ∃ events, parseFile moments path (trafficTest settings world).output = .ok events ∧
      ∃ event ∈ events, event.event ∈ positiveEvents := by
  obtain ⟨events, parsed⟩ := (parseLines_ok_iff moments path 1
    (Text.splitlines (trafficTest settings world).output)).mpr
      fun line mem _ => representable line mem
  refine ⟨events, parsed, ?_⟩
  by_contra none
  push Not at none
  have silent := (parsed_silent_iff parsed).mp none
  have negated := (trafficTest_lines tunnel absent).mp silent
  obtain ⟨line, last⟩ : ∃ line, (settingsLines settings world).getLast? = some line := by
    rw [← Option.isSome_iff_exists, List.getLast?_isSome]
    exact settingsLines_ne_nil settings world
  exact unnegated line last (negated.1.last line last)

/-- A run without the UE leaves no positive event in its file exactly if the message
about the settings tells of a negative outcome and neither the rest of it nor the
container reports a positive event, or if the file cannot be parsed. -/
theorem trafficTest_silent_iff {settings : TrafficSettings} {world : TrafficSurroundings}
    (moments : ParseMoments) (path : Path) (tunnel : settings.ueTunnel = "uesimtun0")
    (absent : UeAbsent world) :
    (∀ events, parseFile moments path (trafficTest settings world).output = .ok events →
      ∀ event ∈ events, event.event ∉ positiveEvents) ↔
    (SettingsNegated settings world ∧
        ∀ line ∈ Text.splitlines (containerOutput world), Silent line) ∨
      ∃ line ∈ Text.splitlines (trafficTest settings world).output,
        eventNames line ≠ [] ∧ ¬Representable line := by
  have parses := parseLines_ok_iff moments path 1
    (Text.splitlines (trafficTest settings world).output)
  rw [← trafficTest_lines tunnel absent]
  constructor
  · intro silent
    by_cases fails : ∃ line ∈ Text.splitlines (trafficTest settings world).output,
        eventNames line ≠ [] ∧ ¬Representable line
    · exact .inr fails
    · push Not at fails
      rcases parses.mpr fails with ⟨events, parsed⟩
      exact .inl ((parsed_silent_iff parsed).mp (silent events parsed))
  · rintro (silent | ⟨line, mem, some, overflows⟩) events parsed
    · exact (parsed_silent_iff parsed).mpr silent
    · exact absurd (parses.mp ⟨events, parsed⟩ line mem some) overflows

/-- The settings of the scenarios. -/
def scenarioSettings : TrafficSettings := ⟨"10.46.0.100", "5", "uesimtun0"⟩

omit [TextTables] in
theorem newYear_valid : ValidDate 2025 1 1 := by decide

/-- The UE container is not running. -/
def stoppedUe : TrafficSurroundings where
  moment _ := ⟨⟨2025, 1, 1, newYear_valid⟩, ⟨0, 0, 5, 0, by decide⟩⟩
  dockerFound := true
  ueRunning := false
  interfaces := ("", 0)
  tunnelShown := false
  routes := ("", 0)
  pingFound := false
  ping := ("", 0)
  iperfFound := false

omit [TextTables] in
/-- The message about the settings is taken for an event of the UE. -/
theorem trafficTest_echoes_tunnel : ∃ events, @parseFile asciiTextTables (fun _ _ => 2025)
    ⟨false, ["baseline_traffic_result.txt"]⟩ (trafficTest scenarioSettings stoppedUe).output =
      .ok events ∧ ∃ event ∈ events, event.event ∈ positiveEvents := by
  have unnegated : ((settingsLines scenarioSettings stoppedUe).getLast?.any
      fun line => (@negativeOutcome asciiTextTables).Found line.toList) = false := by
    decide +kernel
  have plain := isPlain_iff.mp (by decide : isPlain (settingsMessage scenarioSettings))
  have absent : UeAbsent stoppedUe := .inr (.inl rfl)
  apply @trafficTest_reports_tunnel asciiTextTables _ _ _ _ rfl absent
  · intro line mem
    rcases trafficTest_output scenarioSettings absent with ⟨message, early, output⟩
    have container : Text.splitlines (containerOutput stoppedUe) = [] := rfl
    rw [output, splitlines_logLine (earlyMessages_plain _ List.mem_cons_self),
      splitlines_logLine plain, splitlines_logLine (earlyMessages_plain message early),
      container] at mem
    simp only [List.mem_cons, List.not_mem_nil, or_false] at mem
    rcases mem with rfl | rfl | rfl
    · exact @representable_stamped asciiTextTables _ _
    · exact @representable_stamped asciiTextTables _ _
    · exact @representable_stamped asciiTextTables _ _
  · intro line mem found
    rw [Option.mem_def.mp mem, Option.any_some, decide_eq_false_iff_not] at unnegated
    exact unnegated found

/-- Settings whose message tells of a negative outcome. -/
def deniedSettings : TrafficSettings := ⟨"denied.example", "5", "uesimtun0"⟩

omit [TextTables] in
theorem deniedSettings_negated : @SettingsNegated asciiTextTables deniedSettings stoppedUe := by
  have told : ((settingsLines deniedSettings stoppedUe).getLast?.all
      fun line => (@negativeOutcome asciiTextTables).Found line.toList) = true := by
    decide +kernel
  have alone : (settingsLines deniedSettings stoppedUe).dropLast = [] := by decide +kernel
  refine @SettingsNegated.mk asciiTextTables _ _ ?_ ?_
  · intro line last
    rw [Option.mem_def.mp last, Option.all_some, decide_eq_true_iff] at told
    exact told
  · intro line earlier
    rw [alone] at earlier
    cases earlier

omit [TextTables] in
/-- A message that tells of a negative outcome is not taken for an event of the UE. -/
theorem trafficTest_silent_stopped :
    (@parseFile asciiTextTables (fun _ _ => 2025) ⟨false, ["baseline_traffic_result.txt"]⟩
      (trafficTest deniedSettings stoppedUe).output).toBool ∧
    ∀ events, @parseFile asciiTextTables (fun _ _ => 2025) ⟨false, ["baseline_traffic_result.txt"]⟩
        (trafficTest deniedSettings stoppedUe).output = .ok events →
      ∀ event ∈ events, event.event ∉ positiveEvents := by
  refine ⟨by decide +kernel, ?_⟩
  refine (@trafficTest_silent_iff asciiTextTables _ _ _ _ rfl (.inr (.inl rfl))).mpr
    (.inl ⟨deniedSettings_negated, fun line member => ?_⟩)
  cases member

end FivegLab.LogParser
