import FivegLab.JsonTrailing
import FivegLab.Program.Conclude
import FivegLab.Readiness.Association
import FivegLab.Readiness.Read
import FivegLab.VisibleLines
import FivegLab.Words

/-!
# The two streams of a command

`output_text` puts what a command printed to stderr behind what it printed to
stdout.  This is about what the snapshot of the core then tells: the containers
that are read from stdout, and the order of the lines of a log.
-/

namespace FivegLab

open Routine Host Text

/-- What a command prints. -/
structure Streams where
  stdout : String
  stderr : String
  deriving DecidableEq, Repr

/-- `output_text` of a command that prints this and exits with zero. -/
def Streams.text (streams : Streams) : String :=
  CompletedProcess.outputText ⟨0, streams.stdout, streams.stderr⟩

theorem Streams.text_eq (streams : Streams) :
    streams.text = strip (streams.stdout ++ "\n" ++ streams.stderr) := rfl

theorem strip_eq_empty_iff {text : String} :
    strip text = "" ↔ ∀ c ∈ text.toList, isSpace c = true := by
  rw [← stripChars_eq_nil_iff, strip, ← String.toList_inj, String.toList_ofList,
    String.toList_empty]

theorem wordsChars_stripChars (text : List Char) :
    wordsChars (stripChars text) = wordsChars text := by
  refine eq_stripChars (fun c text space => ?_) (fun c text space => ?_) text
  · exact wordsChars_space space text
  · rw [wordsChars_append space, wordsChars, List.append_nil]

/-- Only a blank text has no words. -/
theorem words_eq_nil_iff {text : String} : words text = [] ↔ strip text = "" := by
  rw [words, List.map_eq_nil_iff, strip_eq_empty_iff]
  generalize text.toList = text
  induction text with
  | nil => simp [wordsChars]
  | cons c text ih =>
      rw [List.forall_mem_cons]
      by_cases space : isSpace c = true
      · rw [wordsChars_space space, ih, and_iff_right space]
      · exact iff_of_false (wordsChars_ne_nil space) (fun blank => space blank.1)

theorem strip_toList (text : String) : (strip text).toList = stripChars text.toList := by
  rw [strip, String.toList_ofList]

namespace Streams

variable {streams : Streams}

theorem text_toList : streams.text.toList =
    stripChars (streams.stdout.toList ++ '\n' :: streams.stderr.toList) := by
  rw [text_eq, strip_toList]
  simp [String.toList_append]

theorem text_eq_empty_iff :
    streams.text = "" ↔ strip streams.stdout = "" ∧ strip streams.stderr = "" := by
  rw [strip_eq_empty_iff, strip_eq_empty_iff, ← String.toList_inj, text_toList,
    String.toList_empty, stripChars_eq_nil_iff]
  constructor
  · intro blank
    exact ⟨fun c member => blank c (List.mem_append_left _ member),
      fun c member => blank c (List.mem_append_right _ (List.mem_cons_of_mem _ member))⟩
  · rintro ⟨stdout, stderr⟩ c member
    rcases List.mem_append.mp member with member | member
    · exact stdout c member
    · rcases List.mem_cons.mp member with rfl | member
      · rfl
      · exact stderr c member

/-- The words of what is read are those on stdout, and behind them those on stderr. -/
theorem words_text : words streams.text = words streams.stdout ++ words streams.stderr := by
  simp only [words]
  rw [text_toList, wordsChars_stripChars, wordsChars_append rfl, List.map_append]

/-- Without anything visible on stderr, stdout is read. -/
theorem text_of_blank (blank : strip streams.stderr = "") :
    streams.text = strip streams.stdout := by
  rw [strip_eq_empty_iff] at blank
  rw [← String.toList_inj, text_toList, strip_toList]
  apply stripChars_append_blank
  rw [List.forall_mem_cons]
  exact ⟨rfl, blank⟩

/-- Otherwise stdout is read, and behind white space something visible. -/
theorem text_of_visible (stdout : strip streams.stdout ≠ "") (stderr : strip streams.stderr ≠ "") :
    ∃ more, streams.text = strip streams.stdout ++ more ∧ JsonDecoder.Spaced more.toList ∧
      JsonDecoder.skipSpace more.toList ≠ [] := by
  rw [ne_eq, ← String.toList_inj, strip_toList, String.toList_empty] at stdout stderr
  rcases stripChars_split streams.stdout.toList with ⟨front, back, split, frontBlank, backBlank⟩
  rcases stripChars_split streams.stderr.toList with
    ⟨front', back', split', frontBlank', backBlank'⟩
  have whole : streams.stdout.toList ++ '\n' :: streams.stderr.toList =
      front ++ ((stripChars streams.stdout.toList ++ (back ++ '\n' ::
        (front' ++ stripChars streams.stderr.toList))) ++ back') := by
    conv_lhs => rw [split, split']
    simp
  rcases Option.ne_none_iff_exists'.mp (mt List.head?_eq_none_iff.mp stdout) with ⟨first, head⟩
  rcases Option.ne_none_iff_exists'.mp (mt List.getLast?_eq_none_iff.mp stderr) with ⟨last, ends⟩
  have firstVisible := (stripChars_ends streams.stdout.toList).1 first head
  have lastVisible := (stripChars_ends streams.stderr.toList).2 last ends
  have stripped : stripChars (streams.stdout.toList ++ '\n' :: streams.stderr.toList) =
      stripChars streams.stdout.toList ++ (back ++ '\n' ::
        (front' ++ stripChars streams.stderr.toList)) := by
    rw [whole, stripChars_blank_append frontBlank, stripChars_append_blank backBlank']
    apply stripChars_eq_self
    · simpa [List.head?_append, head] using firstVisible
    · simpa [List.getLast?_append, List.getLast?_cons, ends] using lastVisible
  refine ⟨String.ofList (back ++ '\n' :: (front' ++ stripChars streams.stderr.toList)), ?_, ?_, ?_⟩
  · rw [← String.toList_inj, text_toList, stripped, String.toList_append, strip_toList,
      String.toList_ofList]
  · rw [String.toList_ofList]
    cases back with
    | nil => exact ⟨'\n', _, rfl, rfl⟩
    | cons c back => exact ⟨c, _, rfl, backBlank c List.mem_cons_self⟩
  · rw [String.toList_ofList, JsonDecoder.skipSpace, ne_eq, List.dropWhile_eq_nil_iff]
    intro blank
    have member : last ∈ stripChars streams.stderr.toList := List.mem_of_getLast? ends
    have space := blank last (by simp [member])
    simp only [JsonDecoder.isSpace, Bool.or_eq_true, decide_eq_true_eq] at space
    rcases space with ((rfl | rfl) | rfl) | rfl
    all_goals exact absurd lastVisible (by decide)

end Streams

/-- A line of a log, and the stream it was written to. -/
structure LogLine where
  text : String
  onStderr : Bool
  deriving DecidableEq, Repr

/-- The lines of one stream. -/
def streamLines (onStderr : Bool) (lines : List LogLine) : List String :=
  (lines.filter fun line => line.onStderr = onStderr).map LogLine.text

/-- The lines of a log in the order in which they were written, and what
`docker logs` prints of them: each on its stream, the last one perhaps not ended. -/
structure Journal where
  lines : List LogLine
  streams : Streams
  stdout : endLine streams.stdout = linesText (streamLines false lines)
  stderr : endLine streams.stderr = linesText (streamLines true lines)

namespace Journal

variable (journal : Journal)

/-- What can be seen of the log, line by line. -/
def chronicle : List String := journal.lines.flatMap fun line => plainLines line.text

/-- The lines on stdout, and after them those on stderr, are in order. -/
def Separate : Prop :=
  (streamLines false journal.lines ++ streamLines true journal.lines).flatMap plainLines =
    journal.chronicle

instance : Decidable journal.Separate := inferInstanceAs (Decidable (_ = _))

/-- A text tells the lines of the log in order, and of an association what the last
line about it tells. -/
structure KeptBy (text : String) : Prop where
  order : visibleLines text = journal.chronicle
  judged : ∀ association : Association, association.Holds text ↔
    association.markers.scan (linesText journal.chronicle) = true

variable {journal}

theorem plainLines_stream {stream : String} {lines : List String}
    (printed : endLine stream = linesText lines) :
    plainLines stream = lines.flatMap plainLines := by
  rw [← plainLines_endLine, printed, plainLines_linesText]

theorem visibleLines_text : visibleLines (withoutColour journal.streams.text) =
    (streamLines false journal.lines ++ streamLines true journal.lines).flatMap plainLines := by
  rw [Streams.text_eq, plainLines_strip, plainLines_append, plainLines_stream journal.stdout,
    plainLines_stream journal.stderr, List.flatMap_append]

theorem visible_markers (association : Association) : association.markers.Visible := by
  cases association with
  | registration => decide +kernel
  | pfcp => decide +kernel

/-- What is read of a log keeps its order exactly if its streams are separate. -/
theorem keptBy_text_iff :
    journal.KeptBy (withoutColour journal.streams.text) ↔ journal.Separate := by
  constructor
  · intro kept
    rw [Separate, ← visibleLines_text]
    exact kept.order
  · intro separate
    have order : visibleLines (withoutColour journal.streams.text) = journal.chronicle :=
      visibleLines_text.trans separate
    refine ⟨order, fun association => ?_⟩
    rw [Association.holds_iff_scan, (visible_markers association).scan_visibleLines, order]

end Journal

section Containers

variable [JsonLibrary]

/-- The arguments of the command that prints the log of a container. -/
def logCommand (container : CoreContainer) : List Json :=
  [.string "docker", .string "logs", .string "--since", container.startedAt, container.id]

/-- The containers that an inspection tells about, besides those already known.
The command for a log needs texts as arguments. -/
def inspectedContainers (known : List (Json × CoreContainer)) :
    List Json → Except Raised (List (Json × CoreContainer))
  | [] => .ok []
  | inspected :: rest => do
      let entry ← readContainer { containers := known } inspected
      if (loggedService entry.1 entry.2).isSome then
        let _ ← commandArguments (logCommand entry.2)
      let entries ← inspectedContainers (known ++ [entry]) rest
      return entry :: entries

/-- The containers of the ids that `docker compose ps` prints: those that the standard
output of their inspection tells about. -/
def coreContainers (ids : String) (inspect : List String → Streams) :
    Except Raised (List (Json × CoreContainer)) :=
  if strip ids = "" then .ok []
  else do
    let document ← JsonLibrary.loads (strip (inspect (words ids)).stdout)
    let containers ← document.elements
    inspectedContainers [] containers

/-- The network functions whose logs are read, in order. -/
def loggedServices (containers : List (Json × CoreContainer)) : List String :=
  containers.filterMap fun entry => loggedService entry.1 entry.2

end Containers

/-- The ids that a command inspects, when it is an inspection. -/
def inspectedIds : List String → Option (List String)
  | "docker" :: "inspect" :: ids => some ids
  | _ => none

/-- What a command prints: an inspection what the engine tells about the ids that it
asks for, any other command the next of what is given. -/
def commandPrints (inspect : List String → Streams) (args : List String) (writes : List Streams) :
    Option (Streams × List Streams) :=
  match inspectedIds args, writes with
  | some ids, writes => some (inspect ids, writes)
  | none, streams :: rest => some (streams, rest)
  | none, [] => none

/-- All commands exit with zero and print what they should, and the deadline is not
reached. -/
def dockerPrints (deadline : ℚ) (inspect : List String → Streams) : Answers Host (List Streams) :=
  fun before op reply after =>
    match op, reply with
    | .monotonic, now => now < deadline ∧ after = before
    | .spawn args _ _, ended => ∃ streams, commandPrints inspect args before =
        some (streams, after) ∧
        ended = .exited 0 streams.stdout streams.stderr
    | _, _ => False

section Runs

variable [JsonLibrary] {deadline : ℚ} {inspect : List String → Streams} {writes : List Streams}

omit [JsonLibrary] in
theorem printed_readCommand {values : List Json}
    {post : Except Raised String → List Streams → Prop}
    (refused : ∀ error, commandArguments values = .error error → post (.error error) writes)
    (inspection : ∀ args ids, commandArguments values = .ok args → inspectedIds args = some ids →
      post (.ok (inspect ids).text) writes)
    (printed : ∀ args streams rest, commandArguments values = .ok args →
      inspectedIds args = none → writes = streams :: rest → post (.ok streams.text) rest) :
    (readCommand deadline values).Concludes (dockerPrints deadline inspect) writes
      fun ended _ final => post ended final := by
  rw [readCommand]
  refine concludes_bind (concludes_call (I := Host) .monotonic ?_)
  rintro (now : ℚ) _ ⟨early, rfl⟩
  have remains : ¬deadline - now ≤ 0 := not_le.mpr (sub_pos.mpr early)
  dsimp only
  rw [if_neg remains]
  refine concludes_bind (concludes_ofExcept ?_)
  cases known : commandArguments values with
  | error error => exact refused error known
  | ok args =>
      refine concludes_bind (concludes_bind (concludes_call (I := Host) (.spawn args [] _) ?_))
      rintro _ rest ⟨streams, prints, rfl⟩
      refine concludes_ofExcept (concludes_pure ?_)
      unfold commandPrints at prints
      split at prints
      case h_1 ids asked =>
        cases prints
        exact inspection args ids known asked
      case h_2 asked =>
        cases prints
        exact printed args streams rest known asked rfl
      case h_3 => cases prints

omit [JsonLibrary] in
/-- A command for a log inspects nothing. -/
theorem inspectedIds_logCommand {container : CoreContainer} {args : List String}
    (known : commandArguments (logCommand container) = .ok args) : inspectedIds args = none := by
  rw [logCommand, commandArguments, commandArguments] at known
  rcases Except.bind_ok_iff.mp known with ⟨_, rest, ended⟩
  rcases Except.bind_ok_iff.mp rest with ⟨_, _, same⟩
  cases same
  cases ended
  rfl

omit [JsonLibrary] in
theorem printed_readLog {entry : Json × CoreContainer}
    {post : Except Raised (List (String × String)) → List Streams → Prop}
    (unlogged : loggedService entry.1 entry.2 = none → post (.ok []) writes)
    (logged : ∀ service, loggedService entry.1 entry.2 = some service →
      (∀ error, commandArguments (logCommand entry.2) = .error error →
        post (.error error) writes) ∧
      ∀ args streams rest, commandArguments (logCommand entry.2) = .ok args →
        writes = streams :: rest → post (.ok [(service, withoutColour streams.text)]) rest) :
    (readLog deadline entry.1 entry.2).Concludes (dockerPrints deadline inspect) writes
      fun ended _ final => post ended final := by
  rw [readLog]
  split
  case h_1 none => exact concludes_pure (unlogged none)
  case h_2 service found =>
    rcases logged service found with ⟨refused, printed⟩
    refine concludes_bind (printed_readCommand ?_ ?_ ?_)
    · exact refused
    · intro args ids known asked
      rw [inspectedIds_logCommand known] at asked
      cases asked
    · intro args streams rest known _ same
      exact concludes_pure (printed args streams rest known same)

omit [JsonLibrary] in
/-- The inspected containers are read, and the logs with them. -/
theorem printed_readContainers {items : List Json} {snapshot : CoreSnapshot}
    {entries : List (Json × CoreContainer)} {journal : String → Journal}
    (inspected : inspectedContainers snapshot.containers items = .ok entries)
    (journaled : (loggedServices entries).map (fun service => (journal service).streams) <+:
      writes) :
    (readContainers deadline items snapshot).Concludes (dockerPrints deadline inspect) writes
      fun ended _ _ => ended = .ok
        ⟨snapshot.containers ++ entries, snapshot.logs ++ (loggedServices entries).map
          fun service => (service, withoutColour (journal service).streams.text)⟩ := by
  induction items generalizing snapshot entries writes with
  | nil =>
      rw [inspectedContainers, Except.ok.injEq] at inspected
      subst inspected
      exact concludes_pure (by simp [loggedServices])
  | cons item items ih =>
      simp only [inspectedContainers, Except.bind_ok_iff] at inspected
      rcases inspected with ⟨entry, read, inspected⟩
      have known : readContainer snapshot item = .ok entry := read
      refine concludes_bind (concludes_ofExcept ?_)
      rw [known]
      dsimp only
      refine concludes_bind (printed_readLog ?_ ?_)
      · intro none
        simp only [none, Option.isSome_none, Bool.false_eq_true, if_false] at inspected
        rcases Except.bind_ok_iff.mp inspected with ⟨rest, more, same⟩
        cases same
        have services : loggedServices (entry :: rest) = loggedServices rest := by
          simp [loggedServices, none]
        rw [services] at journaled ⊢
        have reads : (readContainers deadline items ⟨snapshot.containers ++ [entry],
            snapshot.logs ++ []⟩).Concludes (dockerPrints deadline inspect) writes _ :=
            ih more journaled
        refine reads.mono ?_
        intro ended _ _ same
        simpa using same
      · intro service found
        simp only [found, Option.isSome_some, if_true, Except.bind_ok_iff] at inspected
        rcases inspected with ⟨args, texts, rest, more, same⟩
        cases same
        have services : loggedServices (entry :: rest) = service :: loggedServices rest := by
          simp [loggedServices, found]
        rw [services] at journaled ⊢
        refine ⟨fun _ failed => absurd (texts.symm.trans failed) (by simp), ?_⟩
        rintro _ streams left _ rfl
        rw [List.map_cons, List.cons_prefix_cons] at journaled
        rcases journaled with ⟨rfl, journaled⟩
        have reads : (readContainers deadline items ⟨snapshot.containers ++ [entry],
            snapshot.logs ++ [(service, withoutColour (journal service).streams.text)]⟩).Concludes
              (dockerPrints deadline inspect) left _ := ih more journaled
        refine reads.mono ?_
        intro ended _ _ same
        simpa using same

omit [JsonLibrary] in
/-- Each inspected container that is read becomes one of the snapshot. -/
theorem printed_readContainers_length {items : List Json} {snapshot : CoreSnapshot} :
    (readContainers deadline items snapshot).Concludes (dockerPrints deadline inspect) writes
      fun ended _ _ => ∀ result, ended = .ok result →
        result.containers.length = snapshot.containers.length + items.length := by
  induction items generalizing snapshot writes with
  | nil =>
      refine concludes_pure ?_
      rintro result ⟨⟩
      rfl
  | cons item items ih =>
      refine concludes_bind (concludes_ofExcept ?_)
      split
      case h_1 entry read =>
        have longer (logs : List (String × String)) (rest : List Streams) :
            (readContainers deadline items
              ⟨snapshot.containers ++ [entry], snapshot.logs ++ logs⟩).Concludes
              (dockerPrints deadline inspect) rest fun ended _ _ => ∀ result, ended = .ok result →
                result.containers.length = snapshot.containers.length + (item :: items).length := by
          refine ih.mono fun ended _ _ length result same => ?_
          rw [length result same]
          simp
          omega
        refine concludes_bind (printed_readLog ?_ ?_)
        · exact fun _ => longer _ _
        · intro service found
          refine ⟨fun _ _ => by rintro _ ⟨⟩, ?_⟩
          exact fun args streams rest known same => longer _ _
      case h_2 => rintro _ ⟨⟩

/-- The containers that are read from what `docker inspect` prints. -/
def Streams.inspected (streams : Streams) : Except Raised (List Json) :=
  (JsonLibrary.loads streams.text).bind Json.elements

omit [JsonLibrary] in
theorem commandArguments_ok {texts args : List String}
    (known : commandArguments (texts.map .string) = .ok args) : args = texts := by
  rw [commandArguments_strings, Except.ok.injEq] at known
  exact known.symm

theorem printed_inspectCore {ids : String} {post : Except Raised CoreSnapshot → List Streams → Prop}
    (failed : ∀ error, (inspect (words ids)).inspected = .error error → post (.error error) writes)
    (listed : ∀ items, (inspect (words ids)).inspected = .ok items →
      (readContainers deadline items {}).Concludes (dockerPrints deadline inspect) writes
        fun ended _ final => post ended final) :
    (inspectCore deadline ids).Concludes (dockerPrints deadline inspect) writes
      fun ended _ final => post ended final := by
  rw [Streams.inspected] at failed listed
  refine concludes_bind (printed_readCommand ?_ ?_ ?_)
  · intro error refused
    rw [commandArguments_strings] at refused
    cases refused
  · intro args ids' known asked
    rw [commandArguments_ok known] at asked
    cases asked
    change (Routine.ofExcept (JsonLibrary.loads (inspect (words ids)).text) >>= _).Concludes _ _ _
    refine concludes_bind (concludes_ofExcept ?_)
    cases loaded : JsonLibrary.loads (inspect (words ids)).text with
    | error error =>
        rw [loaded] at failed
        exact failed error rfl
    | ok document =>
        rw [loaded] at failed listed
        refine concludes_bind (concludes_ofExcept ?_)
        cases elements : document.elements with
        | error error => exact failed error elements
        | ok items => exact listed items elements
  · intro args streams rest known asked
    rw [commandArguments_ok known] at asked
    cases asked

theorem printed_readCore {ps : Streams} {post : Except Raised CoreSnapshot → List Streams → Prop}
    (empty : ps.text = "" → post (.ok {}) writes)
    (some : ps.text ≠ "" →
      (inspectCore deadline ps.text).Concludes (dockerPrints deadline inspect) writes
        fun ended _ final => post ended final) :
    (readCore deadline).Concludes (dockerPrints deadline inspect) (ps :: writes)
      fun ended _ final => post ended final := by
  refine concludes_bind (printed_readCommand ?_ ?_ ?_)
  · intro error refused
    rw [commandArguments_strings] at refused
    cases refused
  · intro args ids known asked
    rw [commandArguments_ok known] at asked
    cases asked
  · rintro _ _ _ _ _ ⟨⟩
    dsimp only
    split
    case isTrue none => exact concludes_pure (empty none)
    case isFalse any => exact some any

/-- The snapshot has the containers that stdout tells about, and keeps their logs. -/
def Faithful (outcome : Except Raised CoreSnapshot) (containers : List (Json × CoreContainer))
    (journal : String → Journal) : Prop :=
  ∃ snapshot, outcome = .ok snapshot ∧ snapshot.containers = containers ∧
    ∀ service ∈ loggedServices containers, (journal service).KeptBy (snapshot.log service)

/-- Nothing visible on stderr is read as the id of a container or into the inspection
of the ids on stdout. -/
def Undisturbed (ps : Streams) (inspect : List String → Streams) : Prop :=
  strip ps.stderr = "" ∧
    (words ps.stdout = [] ∨ strip (inspect (words ps.stdout)).stderr = "")

/-- An inspection prints an array with one element for each id that it asks for. -/
def TellsEach (inspect : List String → Streams) (ids : List String) : Prop :=
  ids ≠ [] → ∃ document items, JsonLibrary.loads (strip (inspect ids).stdout) = .ok document ∧
    document.elements = .ok items ∧ items.length = ids.length

/-- The snapshot of the containers, with what is read of their logs. -/
def CoreSnapshot.ofJournals (containers : List (Json × CoreContainer))
    (journal : String → Journal) :
    CoreSnapshot where
  containers := containers
  logs := (loggedServices containers).map fun service =>
    (service, withoutColour (journal service).streams.text)

omit [JsonLibrary] in
theorem log_ofJournals {containers : List (Json × CoreContainer)} {journal : String → Journal}
    {service : String} (member : service ∈ loggedServices containers) :
    (CoreSnapshot.ofJournals containers journal).log service =
      withoutColour (journal service).streams.text := by
  rw [CoreSnapshot.log, CoreSnapshot.ofJournals]
  dsimp only
  generalize loggedServices containers = services at member
  induction services with
  | nil => cases member
  | cons other services ih =>
      rw [List.map_cons, List.find?_cons]
      by_cases same : other = service
      · simp [same]
      · simpa [same] using ih (List.mem_of_ne_of_mem (Ne.symm same) member)

/-- The library refuses a text without a document, and one with something visible
behind its document. -/
structure JsonLibrary.Strict : Prop where
  empty : ∀ document, JsonLibrary.loads "" ≠ .ok document
  trailing : ∀ {text more : String} {document : Json}, JsonLibrary.loads text = .ok document →
    JsonDecoder.Spaced more.toList → JsonDecoder.skipSpace more.toList ≠ [] →
      ∃ error, JsonLibrary.loads (text ++ more) = .error error

variable {ps : Streams} {containers : List (Json × CoreContainer)} {journal : String → Journal}

omit [JsonLibrary] in
/-- What was read is faithful exactly if the streams of the logs are separate. -/
theorem faithful_ofJournals_iff :
    Faithful (.ok (.ofJournals containers journal)) containers journal ↔
      ∀ service ∈ loggedServices containers, (journal service).Separate := by
  constructor
  · rintro ⟨_, ⟨⟩, _, kept⟩ service member
    rw [← Journal.keptBy_text_iff, ← log_ofJournals member]
    exact kept service member
  · intro separate
    refine ⟨_, rfl, rfl, fun service member => ?_⟩
    rw [log_ofJournals member, Journal.keptBy_text_iff]
    exact separate service member

omit [JsonLibrary] in
theorem faithful_empty : Faithful (.ok {}) [] journal :=
  ⟨{}, rfl, rfl, fun _ member => absurd member List.not_mem_nil⟩

omit [JsonLibrary] in
theorem not_faithful_error {error : Raised} : ¬Faithful (.error error) containers journal := by
  rintro ⟨_, ⟨⟩, _⟩

/-- What can be seen on the stderr of an inspection makes it unreadable. -/
theorem inspected_of_visible (strict : JsonLibrary.Strict) {streams : Streams} {document : Json}
    (loaded : JsonLibrary.loads (strip streams.stdout) = .ok document)
    (visible : strip streams.stderr ≠ "") : ∃ error, streams.inspected = .error error := by
  have read : strip streams.stdout ≠ "" := by
    intro empty
    rw [empty] at loaded
    exact strict.empty document loaded
  rcases Streams.text_of_visible read visible with ⟨more, text, spaced, seen⟩
  rcases strict.trailing loaded spaced seen with ⟨error, refused⟩
  refine ⟨error, ?_⟩
  rw [Streams.inspected, text, refused]
  rfl

theorem inspected_of_blank {streams : Streams} {document : Json} {items : List Json}
    (loaded : JsonLibrary.loads (strip streams.stdout) = .ok document)
    (elements : document.elements = .ok items) (blank : strip streams.stderr = "") :
    streams.inspected = .ok items := by
  rw [Streams.inspected, Streams.text_of_blank blank, loaded]
  exact elements

/-- An inspection that can be read tells about each id. -/
theorem inspected_length (strict : JsonLibrary.Strict) {ids : List String}
    (tells : TellsEach inspect ids) (some : ids ≠ []) {items : List Json}
    (listed : (inspect ids).inspected = .ok items) : items.length = ids.length := by
  rcases tells some with ⟨document, told, loaded, elements, length⟩
  by_cases blank : strip (inspect ids).stderr = ""
  · rw [inspected_of_blank loaded elements blank, Except.ok.injEq] at listed
    rw [← listed, length]
  · rcases inspected_of_visible strict loaded blank with ⟨error, failed⟩
    rw [failed] at listed
    cases listed

omit [JsonLibrary] in
theorem inspectedContainers_length {known entries : List (Json × CoreContainer)}
    {items : List Json} (inspected : inspectedContainers known items = .ok entries) :
    entries.length = items.length := by
  induction items generalizing known entries with
  | nil =>
      cases inspected
      rfl
  | cons item items ih =>
      simp only [inspectedContainers, Except.bind_ok_iff] at inspected
      rcases inspected with ⟨entry, _, inspected⟩
      split at inspected
      · rcases Except.bind_ok_iff.mp inspected with ⟨_, _, inspected⟩
        rcases Except.bind_ok_iff.mp inspected with ⟨rest, more, same⟩
        cases same
        rw [List.length_cons, List.length_cons, ih more]
      · rcases Except.bind_ok_iff.mp inspected with ⟨rest, more, same⟩
        cases same
        rw [List.length_cons, List.length_cons, ih more]

/-- There is one container for each id on stdout. -/
theorem coreContainers_length
    (tells : TellsEach inspect (words ps.stdout))
    (determined : coreContainers ps.stdout inspect = .ok containers) :
    containers.length = (words ps.stdout).length := by
  rw [coreContainers] at determined
  split at determined
  case isTrue blank =>
    cases determined
    rw [words_eq_nil_iff.mpr blank]
    rfl
  case isFalse some =>
    rcases Except.bind_ok_iff.mp determined with ⟨document, loaded, listed⟩
    rcases Except.bind_ok_iff.mp listed with ⟨items, elements, inspected⟩
    have ids : words ps.stdout ≠ [] := fun none => some (words_eq_nil_iff.mp none)
    rcases tells ids with ⟨document', items', loaded', elements', length⟩
    rw [loaded, Except.ok.injEq] at loaded'
    subst document'
    rw [elements, Except.ok.injEq] at elements'
    subst items'
    rw [inspectedContainers_length inspected, length]

/-- A word on the stderr of `docker compose ps` is inspected as an id, so there are
more containers than stdout tells about, or none can be read. -/
theorem printed_unfaithful (strict : JsonLibrary.Strict)
    (tells : TellsEach inspect (words ps.stdout))
    (asked : TellsEach inspect (words ps.stdout ++ words ps.stderr))
    (determined : coreContainers ps.stdout inspect = .ok containers)
    (visible : strip ps.stderr ≠ "") :
    (readCore deadline).Concludes (dockerPrints deadline inspect) (ps :: writes)
      fun ended _ _ => ¬Faithful ended containers journal := by
  have more : words ps.stderr ≠ [] := fun none => visible (words_eq_nil_iff.mp none)
  refine printed_readCore ?_ ?_
  · intro empty
    exact absurd (Streams.text_eq_empty_iff.mp empty).2 visible
  · intro _
    refine printed_inspectCore ?_ ?_
    · intro error _
      exact not_faithful_error
    · intro items listed
      rw [Streams.words_text] at listed
      have length := inspected_length strict asked (by simp [more]) listed
      refine printed_readContainers_length.mono ?_
      rintro ended _ _ read ⟨snapshot, same, containersEq, _⟩
      have counted := read snapshot same
      rw [containersEq, coreContainers_length tells determined, length,
        List.length_append] at counted
      have positive := List.length_pos_iff.mpr more
      simp only [List.length_nil] at counted
      omega

/-- Without ids there are no containers. -/
theorem printed_faithful_of_blank (blank : strip ps.stdout = "") (quiet : strip ps.stderr = "") :
    (readCore deadline).Concludes (dockerPrints deadline inspect) (ps :: writes)
      fun ended _ _ => Faithful ended [] journal := by
  refine printed_readCore ?_ ?_
  · intro _
    exact faithful_empty
  · intro some
    exact absurd (Streams.text_eq_empty_iff.mpr ⟨blank, quiet⟩) some

/-- With ids on stdout only, the inspection decides, and what is on its stderr. -/
theorem printed_faithful_of_ids (strict : JsonLibrary.Strict) (ids : strip ps.stdout ≠ "")
    (quiet : strip ps.stderr = "") {document : Json} {items : List Json}
    (loaded : JsonLibrary.loads (strip (inspect (words ps.stdout)).stdout) = .ok document)
    (elements : document.elements = .ok items)
    (inspected : inspectedContainers [] items = .ok containers)
    (journaled : (loggedServices containers).map (fun service => (journal service).streams) <+:
      writes) :
    (readCore deadline).Concludes (dockerPrints deadline inspect) (ps :: writes)
      fun ended _ _ => Faithful ended containers journal ↔
        strip (inspect (words ps.stdout)).stderr = "" ∧
          ∀ service ∈ loggedServices containers, (journal service).Separate := by
  have read : words ps.text = words ps.stdout := by
    rw [Streams.words_text, words_eq_nil_iff.mpr quiet, List.append_nil]
  refine printed_readCore ?_ ?_
  · intro empty
    exact absurd (Streams.text_eq_empty_iff.mp empty).1 ids
  · intro _
    by_cases silent : strip (inspect (words ps.stdout)).stderr = ""
    · have listed := inspected_of_blank loaded elements silent
      refine printed_inspectCore ?_ ?_
      · intro error failed
        rw [read, listed] at failed
        cases failed
      · intro items' listed'
        rw [read, listed, Except.ok.injEq] at listed'
        subst listed'
        refine (printed_readContainers inspected journaled).mono ?_
        intro ended _ _ same
        have snapshot : ended = .ok (.ofJournals containers journal) := by
          simpa [CoreSnapshot.ofJournals] using same
        rw [snapshot, faithful_ofJournals_iff, and_iff_right silent]
    · rcases inspected_of_visible strict loaded silent with ⟨error, failed⟩
      refine printed_inspectCore ?_ ?_
      · intro _ _
        exact iff_of_false not_faithful_error fun both => silent both.1
      · intro items' listed
        rw [read, failed] at listed
        cases listed

theorem printed_faithful_iff (strict : JsonLibrary.Strict)
    (tells : TellsEach inspect (words ps.stdout))
    (asked : TellsEach inspect (words ps.stdout ++ words ps.stderr))
    (determined : coreContainers ps.stdout inspect = .ok containers)
    (journaled : (loggedServices containers).map (fun service => (journal service).streams) <+:
      writes) :
    (readCore deadline).Concludes (dockerPrints deadline inspect) (ps :: writes)
      fun ended _ _ => Faithful ended containers journal ↔
        Undisturbed ps inspect ∧
          ∀ service ∈ loggedServices containers, (journal service).Separate := by
  unfold Undisturbed
  by_cases quiet : strip ps.stderr = ""
  · rw [and_iff_right quiet, words_eq_nil_iff]
    by_cases blank : strip ps.stdout = ""
    · rw [coreContainers, if_pos blank, Except.ok.injEq] at determined
      subst determined
      have faithful : (readCore deadline).Concludes (dockerPrints deadline inspect) (ps :: writes)
          fun ended _ _ => Faithful ended [] journal := printed_faithful_of_blank blank quiet
      refine faithful.mono ?_
      intro ended _ _ faithful
      exact iff_of_true faithful ⟨.inl blank, fun _ member => absurd member List.not_mem_nil⟩
    · rw [coreContainers, if_neg blank] at determined
      rcases Except.bind_ok_iff.mp determined with ⟨document, loaded, listed⟩
      rcases Except.bind_ok_iff.mp listed with ⟨items, elements, inspected⟩
      rw [or_iff_right blank]
      exact printed_faithful_of_ids strict blank quiet loaded elements inspected journaled
  · have unfaithful : (readCore deadline).Concludes (dockerPrints deadline inspect) (ps :: writes)
        fun ended _ _ => ¬Faithful ended containers journal :=
      printed_unfaithful strict tells asked determined quiet
    refine unfaithful.mono ?_
    intro ended _ _ unfaithful
    exact iff_of_false unfaithful fun both => quiet both.1.1

end Runs

/-- Run a program in which each command exits with zero and prints what it should. -/
def Program.printing {α : Type} (inspect : List String → Streams) :
    Program Host α → List Streams → Option α
  | .done value, _ => some value
  | .call .monotonic next, writes => (next 0).printing inspect writes
  | .call (.spawn args _ _) next, writes =>
      match commandPrints inspect args writes with
      | some (streams, rest) =>
          (next (.exited 0 streams.stdout streams.stderr)).printing inspect rest
      | none => none
  | _, _ => none

theorem Program.runs_of_printing {α : Type} {deadline : ℚ} (early : 0 < deadline)
    {inspect : List String → Streams} {program : Program Host α} {value : α}
    {writes : List Streams} (printed : program.printing inspect writes = some value) :
    ∃ trace final, program.Runs trace value ∧
      Admits (dockerPrints deadline inspect) writes trace final := by
  induction program, writes using Program.printing.induct inspect with
  | case1 value' writes =>
      cases printed
      exact ⟨[], writes, .done _, .nil _⟩
  | case2 next writes ih =>
      rcases ih printed with ⟨trace, final, runs, admits⟩
      exact ⟨_, final, .call (0 : ℚ) runs, .cons ⟨early, rfl⟩ admits⟩
  | case3 args environment timeout next writes streams rest prints ih =>
      simp only [Program.printing, prints] at printed
      rcases ih printed with ⟨trace, final, runs, admits⟩
      exact ⟨_, final, .call (ProcessEnd.exited 0 streams.stdout streams.stderr) runs,
        .cons ⟨streams, prints, rfl⟩ admits⟩
  | case4 args environment timeout next writes silent =>
      simp [Program.printing, silent] at printed
  | case5 program writes notDone notClock notSpawn =>
      rw [Program.printing] at printed
      · cases printed
      · exact notDone
      · exact notClock
      · exact notSpawn

section Decoder

variable {printFloat : String → String} {limits : JsonDecoder.Limits}

theorem strict_decoder : @JsonLibrary.Strict (decoder printFloat limits) := by
  refine @JsonLibrary.Strict.mk (decoder printFloat limits) ?_ ?_
  · intro document loaded
    cases loaded
  · intro text more document loaded spaced visible
    exact JsonDecoder.loads_trailing spaced visible loaded

end Decoder

/-- An inspection of one container, which prints nothing on stderr. -/
def inspectedAmf : Streams where
  stdout :=
    "[\x7b\"Config\": \x7b\"Labels\": \x7b\"com.docker.compose.service\": \"amf\"\x7d\x7d, " ++
    "\"State\": \x7b\"Status\": \"running\", \"StartedAt\": \"t\", \"ExitCode\": 0\x7d, " ++
    "\"Id\": \"a1\", \"Image\": \"i\", \"RestartCount\": 0\x7d]"
  stderr := ""

def inspectedEntries : List (Json × CoreContainer) :=
  [(.string "amf",
    ⟨.string "a1", .string "i", .string "running", .string "t", .int 0, .int 0, .null⟩)]

/-- A log whose last line is written to stderr. -/
def orderlyJournal : Journal where
  lines := [⟨"ready", false⟩, ⟨"stopped", true⟩]
  streams := ⟨"ready\n", "stopped\n"⟩
  stdout := by decide +kernel
  stderr := by decide +kernel

theorem inspectedAmf_printing : ((@readCore (decoder id ⟨4300, 1000⟩) 10 ()).printing
    (fun _ => inspectedAmf) [⟨"a1\n", ""⟩, orderlyJournal.streams]).isSome := by
  decide +kernel

theorem inspectedAmf_tellsEach :
    @TellsEach (decoder id ⟨4300, 1000⟩) (fun _ => inspectedAmf) ["a1"] := by
  have listed : ((@JsonLibrary.loads (decoder id ⟨4300, 1000⟩) (strip inspectedAmf.stdout)).bind
      fun document => document.elements.map List.length) = .ok 1 := by decide +kernel
  rcases Except.bind_ok_iff.mp listed with ⟨document, loaded, counted⟩
  cases elements : document.elements with
  | error error => simp [elements, Except.map] at counted
  | ok items =>
      rw [elements, Except.map, Except.ok.injEq] at counted
      exact fun _ => ⟨document, items, loaded, elements, counted⟩

end FivegLab
