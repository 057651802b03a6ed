import FivegLab.Calendar.Text
import FivegLab.Evidence

/-!
# The directory of a run

What path the id of a run makes under an output root.  The id of a scenario is
any text, and the identifier of a run that contains it is used as a path.
-/

namespace FivegLab

namespace Text

theorem splitMaxChars_ne_nil (separator : Char) (count : ℕ) (text : List Char) :
    splitMaxChars separator count text ≠ [] := by
  cases count with
  | zero => simp [splitMaxChars]
  | succ count =>
      cases text with
      | nil => simp [splitMaxChars]
      | cons c rest =>
          rw [splitMaxChars]
          split
          · simp
          · split <;> simp

/-- A count that is large enough does not limit the splits. -/
theorem splitMaxChars_of_le {separator : Char} {text : List Char} (count other : ℕ)
    (enough : text.length ≤ count) (enough_other : text.length ≤ other) :
    splitMaxChars separator count text = splitMaxChars separator other text := by
  induction text generalizing count other with
  | nil => cases count <;> cases other <;> rfl
  | cons c rest ih =>
      rw [List.length_cons] at enough enough_other
      rcases Nat.exists_eq_add_one_of_ne_zero (by omega : count ≠ 0) with ⟨count, rfl⟩
      rcases Nat.exists_eq_add_one_of_ne_zero (by omega : other ≠ 0) with ⟨other, rfl⟩
      rw [splitMaxChars, splitMaxChars]
      split
      · rw [ih count other (by omega) (by omega)]
      · rw [ih (count + 1) (other + 1) (by omega) (by omega)]

/-- `text.split(separator)`. -/
def splitChars (separator : Char) (text : List Char) : List (List Char) :=
  splitMaxChars separator text.length text

theorem splitChars_cons (separator c : Char) (rest : List Char) :
    splitChars separator (c :: rest) =
      if c = separator then [] :: splitChars separator rest
      else (c :: (splitChars separator rest).headD []) :: (splitChars separator rest).tail := by
  have same : splitMaxChars separator (rest.length + 1) rest = splitChars separator rest :=
    splitMaxChars_of_le _ _ (by omega) le_rfl
  have some := splitMaxChars_ne_nil separator rest.length rest
  rw [splitChars, List.length_cons, splitMaxChars, same]
  split
  · rfl
  · rw [splitChars] at same ⊢
    cases found : splitMaxChars separator rest.length rest with
    | nil => exact absurd found some
    | cons field fields => rfl

/-- A part without a separator belongs to the first field. -/
theorem splitChars_append {separator : Char} {plain : List Char} (absent : separator ∉ plain)
    (text : List Char) :
    splitChars separator (plain ++ text) =
      (plain ++ (splitChars separator text).headD []) :: (splitChars separator text).tail := by
  induction plain with
  | nil =>
      have some : splitChars separator text ≠ [] := splitMaxChars_ne_nil _ _ _
      cases found : splitChars separator text with
      | nil => exact absurd found some
      | cons field fields => rw [List.nil_append, found]; rfl
  | cons c plain ih =>
      rw [List.mem_cons, not_or] at absent
      rw [List.cons_append, splitChars_cons, if_neg (Ne.symm absent.1), ih absent.2]
      rfl

theorem splitChars_of_not_mem {separator : Char} {text : List Char} (absent : separator ∉ text) :
    splitChars separator text = [text] := by
  have alone := splitChars_append absent []
  rw [List.append_nil] at alone
  rw [alone]
  simp [splitChars, splitMaxChars]

end Text

/-- The components of a text, as `Path` takes it apart. -/
def components (text : String) : List String :=
  (Text.splitChars '/' text.toList).map String.ofList

/-- The part of a scenario's id that is the end of the name of a directory. -/
def idHead (id : String) : String := (components id).headD ""

/-- The components of a scenario's id that are further directories. -/
def idTail (id : String) : List String :=
  (components id).tail.filter fun part => part ≠ "" ∧ part ≠ "."

theorem Path.div_eq {directory : Path} {text : String}
    (relative : (Path.ofText text).absolute = false) :
    directory / text = { directory with parts := directory.parts ++ (Path.ofText text).parts } := by
  simp only [HDiv.hDiv, relative, Bool.false_eq_true, if_false]

theorem ofText_eq (text : String) :
    Path.ofText text = ⟨Text.StartsWith text "/",
      (components text).filter fun part => part ≠ "" ∧ part ≠ "."⟩ := by
  rw [Path.ofText, components, Text.splitMax,
    Text.splitMaxChars_of_le text.length text.toList.length le_rfl le_rfl]
  rfl

namespace Calendar.DateTime

/-- The time without its punctuation. -/
def compact (stamp : DateTime) : List Char :=
  stamp.utcText.filter fun c => c ≠ '-' ∧ c ≠ ':' ∧ c ≠ '.'

/-- The digits of the fraction, unless it is zero. -/
def fractionDigits (stamp : DateTime) : List Char :=
  if stamp.time.microsecond = 0 then [] else padded 6 stamp.time.microsecond

theorem filter_padded (width number : ℕ) :
    ((padded width number).filter fun c => c ≠ '-' ∧ c ≠ ':' ∧ c ≠ '.') = padded width number := by
  rw [List.filter_eq_self]
  intro c member
  have digit := isAsciiDigit_padded member
  have other : ∀ punctuation, isAsciiDigit punctuation = false → c ≠ punctuation := by
    rintro punctuation plain rfl
    rw [digit] at plain
    cases plain
  simp only [decide_eq_true_eq]
  exact ⟨other '-' rfl, other ':' rfl, other '.' rfl⟩

theorem compact_eq (stamp : DateTime) :
    stamp.compact = padded 4 stamp.date.year ++ (padded 2 stamp.date.month ++
      (padded 2 stamp.date.day ++ ('T' :: (padded 2 stamp.time.hour ++
        (padded 2 stamp.time.minute ++ (padded 2 stamp.time.second ++
          (stamp.fractionDigits ++ ['Z']))))))) := by
  have fraction : (stamp.fractionText.filter fun c => c ≠ '-' ∧ c ≠ ':' ∧ c ≠ '.') =
      stamp.fractionDigits := by
    rw [fractionText, fractionDigits]
    split
    · rfl
    · rw [List.filter_cons_of_neg (by decide), filter_padded]
  have punctuation : ∀ c rest, c = '-' ∨ c = ':' →
      ((c :: rest).filter fun c => c ≠ '-' ∧ c ≠ ':' ∧ c ≠ '.') =
        rest.filter fun c => c ≠ '-' ∧ c ≠ ':' ∧ c ≠ '.' := by
    rintro c rest (rfl | rfl)
    · exact List.filter_cons_of_neg (by decide)
    · exact List.filter_cons_of_neg (by decide)
  have letter : ∀ rest, (('T' :: rest).filter fun c => c ≠ '-' ∧ c ≠ ':' ∧ c ≠ '.') =
      'T' :: rest.filter fun c => c ≠ '-' ∧ c ≠ ':' ∧ c ≠ '.' :=
    fun rest => List.filter_cons_of_pos (by decide)
  rw [compact, utcText, isoformat, secondsText]
  simp only [List.filter_append, filter_padded, fraction, punctuation _ _ (.inl rfl),
    punctuation _ _ (.inr rfl), letter, List.append_assoc, List.cons_append]
  rfl

/-- A compact time is digits and the letters `T` and `Z`. -/
theorem not_mem_compact {c : Char} (plain : isAsciiDigit c = false) (notT : c ≠ 'T')
    (notZ : c ≠ 'Z') (stamp : DateTime) : c ∉ stamp.compact := by
  have absent : ∀ width number, c ∉ padded width number := by
    intro width number member
    rw [isAsciiDigit_padded member] at plain
    cases plain
  have fraction : c ∉ stamp.fractionDigits := by
    rw [fractionDigits]
    split
    · exact List.not_mem_nil
    · exact absent _ _
  rw [compact_eq]
  simp only [List.mem_append, List.mem_cons, List.not_mem_nil, absent, fraction, notT, notZ,
    or_false, not_false_eq_true]

theorem microsecond_eq {stamp other : DateTime}
    (same : stamp.fractionDigits = other.fractionDigits) :
    stamp.time.microsecond = other.time.microsecond := by
  have small := stamp.time.valid.2.2.2
  have otherSmall := other.time.valid.2.2.2
  rw [fractionDigits, fractionDigits] at same
  split at same
  case isTrue zero =>
    split at same
    case isTrue otherZero => rw [zero, otherZero]
    case isFalse => simpa using congrArg List.length same
  case isFalse =>
    split at same
    case isTrue => simpa using congrArg List.length same
    case isFalse => exact padded_injective (by omega) (by omega) same

/-- No two times have the same compact text. -/
theorem compact_injective {stamp other : DateTime} (same : stamp.compact = other.compact) :
    stamp = other := by
  have long := monthLength_le stamp.date.year stamp.date.month
  have otherLong := monthLength_le other.date.year other.date.month
  rcases stamp with ⟨⟨year, month, day, date⟩, ⟨hour, minute, second, microsecond, time⟩⟩
  rcases other with ⟨⟨year', month', day', date'⟩, ⟨hour', minute', second', microsecond', time'⟩⟩
  have bounds := date
  have bounds' := date'
  unfold ValidDate at bounds bounds'
  rw [compact_eq, compact_eq] at same
  rcases List.append_inj same (by simp) with ⟨years, same⟩
  rcases List.append_inj same (by simp) with ⟨months, same⟩
  rcases List.append_inj same (by simp) with ⟨days, same⟩
  rw [List.cons.injEq] at same
  rcases List.append_inj same.2 (by simp) with ⟨hours, same⟩
  rcases List.append_inj same (by simp) with ⟨minutes, same⟩
  rcases List.append_inj same (by simp) with ⟨seconds, same⟩
  have fractions := microsecond_eq (List.append_cancel_right same)
  dsimp only at years months days hours minutes seconds fractions long otherLong
  have sameYear := padded_injective (by omega) (by omega) years
  have sameMonth := padded_injective (by omega) (by omega) months
  have sameDay := padded_injective (by omega) (by omega) days
  have sameHour := padded_injective (by omega) (by omega) hours
  have sameMinute := padded_injective (by omega) (by omega) minutes
  have sameSecond := padded_injective (by omega) (by omega) seconds
  subst sameYear sameMonth sameDay sameHour sameMinute sameSecond fractions
  rfl

end Calendar.DateTime

open Calendar

/-- `utc_now()` at a time. -/
def utcNowText (start : DateTime) : String := String.ofList start.utcText

/-- The directory that a run of a scenario makes when it starts at a time. -/
def runDirectory (root : Path) (id : String) (start : DateTime) : Path :=
  root / makeRunId id (utcNowText start)

/-- The name of a directory of runs at a time. -/
def runName (head : String) (start : DateTime) : String :=
  String.ofList start.compact ++ "_" ++ head

theorem toList_makeRunId (id : String) (start : DateTime) :
    (makeRunId id (utcNowText start)).toList = start.compact ++ '_' :: id.toList := by
  rw [makeRunId, utcNowText, String.toList_append, String.toList_append, String.toList_ofList,
    String.toList_ofList, List.append_assoc]
  rfl

theorem compact_ne_nil (start : DateTime) : start.compact ≠ [] := by
  rw [DateTime.compact_eq]
  simp

theorem components_makeRunId (id : String) (start : DateTime) :
    components (makeRunId id (utcNowText start)) = runName (idHead id) start ::
    (components id).tail := by
  have noSlash : '/' ∉ start.compact ++ ['_'] := by
    rw [List.mem_append, not_or]
    exact ⟨DateTime.not_mem_compact rfl (by decide) (by decide) start, by decide⟩
  have head : String.ofList ((Text.splitChars '/' id.toList).headD []) = idHead id := by
    rw [idHead, components]
    cases Text.splitChars '/' id.toList with
    | nil => rfl
    | cons field fields => rfl
  have whole : start.compact ++ '_' :: id.toList = start.compact ++ ['_'] ++ id.toList := by
    rw [List.append_assoc]
    rfl
  rw [components, toList_makeRunId, whole, Text.splitChars_append noSlash, List.map_cons, runName,
    ← head, components, List.map_tail, String.ofList_append, String.ofList_append]

/-- A name with an underscore is no empty or `.` component. -/
theorem runName_kept (head : String) (start : DateTime) :
    runName head start ≠ "" ∧ runName head start ≠ "." := by
  have underscore : '_' ∈ (runName head start).toList := by
    simp [runName, String.toList_append]
  constructor
  · intro empty
    rw [empty] at underscore
    simp at underscore
  · intro dot
    rw [dot] at underscore
    simp at underscore

theorem not_startsWith_makeRunId (id : String) (start : DateTime) :
    ¬Text.StartsWith (makeRunId id (utcNowText start)) "/" := by
  have some := compact_ne_nil start
  have noSlash := DateTime.not_mem_compact (c := '/') rfl (by decide) (by decide) start
  rw [Text.StartsWith, toList_makeRunId]
  cases found : start.compact with
  | nil => exact absurd found some
  | cons c rest =>
      rintro ⟨suffix, same⟩
      rw [found, List.mem_cons, not_or] at noSlash
      apply noSlash.1
      simpa using congrArg List.head? same

/-- A run's directory is named by the time and the beginning of the id; any further
components of the id are further directories. -/
theorem runDirectory_eq (root : Path) (id : String) (start : DateTime) :
    runDirectory root id start =
      { root with parts := root.parts ++ runName (idHead id) start :: idTail id } := by
  have kept := runName_kept (idHead id) start
  have relative : (Path.ofText (makeRunId id (utcNowText start))).absolute = false := by
    rw [ofText_eq, decide_eq_false_iff_not]
    exact not_startsWith_makeRunId id start
  have parts : (Path.ofText (makeRunId id (utcNowText start))).parts =
      runName (idHead id) start :: idTail id := by
    have keeps : decide (runName (idHead id) start ≠ "" ∧ runName (idHead id) start ≠ ".") = true :=
      decide_eq_true kept
    simp only [ofText_eq, components_makeRunId, idTail, List.filter_cons, keeps, if_true]
  rw [runDirectory, Path.div_eq relative, parts]

/-- The same name is that of the same time and the same beginning. -/
theorem runName_injective {head otherHead : String} {start otherStart : DateTime}
    (same : runName head start = runName otherHead otherStart) :
    start = otherStart ∧ head = otherHead := by
  have chars : start.compact ++ '_' :: head.toList = otherStart.compact ++ '_' ::
      otherHead.toList := by
    have toList := congrArg String.toList same
    simpa [runName, String.toList_append] using toList
  have noScore : ∀ stamp : DateTime, '_' ∉ stamp.compact :=
    DateTime.not_mem_compact rfl (by decide) (by decide)
  rcases List.append_eq_append_iff.mp chars with ⟨between, longer, rest⟩ | ⟨between, longer, rest⟩
  · cases between with
    | nil =>
        rw [List.append_nil] at longer
        rw [List.nil_append, List.cons.injEq] at rest
        exact ⟨(DateTime.compact_injective longer).symm, String.toList_inj.mp rest.2⟩
    | cons c between =>
        rw [List.cons_append, List.cons.injEq] at rest
        exact absurd (by simp [longer, ← rest.1]) (noScore otherStart)
  · cases between with
    | nil =>
        rw [List.append_nil] at longer
        rw [List.nil_append, List.cons.injEq] at rest
        exact ⟨DateTime.compact_injective longer, (String.toList_inj.mp rest.2).symm⟩
    | cons c between =>
        rw [List.cons_append, List.cons.injEq] at rest
        exact absurd (by simp [longer, ← rest.1]) (noScore start)

/-- A direct child of a directory. -/
def Path.IsChild (root path : Path) : Prop :=
  ∃ name, name ≠ ".." ∧ path = { root with parts := root.parts ++ [name] }

/-- A run's directory is a direct child of the root unless the id has further components. -/
theorem isChild_runDirectory_iff {root : Path} {id : String} {start : DateTime} :
    root.IsChild (runDirectory root id start) ↔ idTail id = [] := by
  rw [runDirectory_eq, Path.IsChild]
  constructor
  · rintro ⟨name, _, same⟩
    rw [Path.mk.injEq, List.append_cancel_left_eq, List.cons.injEq] at same
    exact same.2.2
  · intro alone
    refine ⟨runName (idHead id) start, ?_, by rw [alone]⟩
    intro dots
    have underscore : '_' ∈ (runName (idHead id) start).toList := by
      simp [runName, String.toList_append]
    rw [dots] at underscore
    simp at underscore

/-- Two runs share a directory exactly when they start at the same time and their
ids have the same components. -/
theorem runDirectory_eq_iff {root : Path} {id other : String} {start otherStart : DateTime} :
    runDirectory root id start = runDirectory root other otherStart ↔
      start = otherStart ∧ idHead id = idHead other ∧ idTail id = idTail other := by
  rw [runDirectory_eq, runDirectory_eq, Path.mk.injEq, List.append_cancel_left_eq, List.cons.injEq]
  constructor
  · rintro ⟨_, names, tails⟩
    rcases runName_injective names with ⟨times, heads⟩
    exact ⟨times, heads, tails⟩
  · rintro ⟨rfl, heads, tails⟩
    rw [heads]
    exact ⟨rfl, rfl, tails⟩

end FivegLab
