import FivegLab.ScenarioParser

/-!
# The grammar of scenarios

Which mappings `parse_scenario` accepts, stated without its order of checks, and
when it rejects every other mapping with a `ValueError`.
-/

namespace FivegLab

/-- A check of a computation: what it asks for, and the errors with which it may fail
instead of an answer. -/
structure Stage where
  holds : Prop
  fails : Raised → Prop

namespace Stage

/-- A condition that is always answered. -/
def ask (condition : Prop) : Stage := ⟨condition, fun _ => False⟩

/-- A conversion that may fail. -/
def convert (fails : Raised → Prop) : Stage := ⟨True, fails⟩

end Stage

/-- One of the stages fails with the error, behind others that hold. -/
def Stumbles : List Stage → Raised → Prop
  | [], _ => False
  | stage :: stages, error => stage.fails error ∨
      stage.holds ∧ (∀ other, ¬stage.fails other) ∧ Stumbles stages error

theorem stumbles_append_iff {first second : List Stage} {error : Raised} :
    Stumbles (first ++ second) error ↔ Stumbles first error ∨ (∀ stage ∈ first, stage.holds) ∧
      (∀ other, ¬Stumbles first other) ∧ Stumbles second error := by
  induction first with
  | nil => simp [Stumbles]
  | cons stage first ih =>
      simp only [List.cons_append, Stumbles, ih, List.forall_mem_cons]
      constructor
      · rintro (fails | ⟨holds, answers, stumbles | ⟨hold, none, stumbles⟩⟩)
        · exact .inl (.inl fails)
        · exact .inl (.inr ⟨holds, answers, stumbles⟩)
        · refine .inr ⟨⟨holds, hold⟩, ?_, stumbles⟩
          rintro other (fails | ⟨_, _, earlier⟩)
          · exact answers other fails
          · exact none other earlier
      · rintro ((fails | ⟨holds, answers, stumbles⟩) | ⟨⟨holds, hold⟩, none, stumbles⟩)
        · exact .inl fails
        · exact .inr ⟨holds, answers, .inl stumbles⟩
        · have answers : ∀ other, ¬stage.fails other := fun other fails => none other (.inl fails)
          refine .inr ⟨holds, answers, .inr ⟨hold, fun other earlier => ?_, stumbles⟩⟩
          exact none other (.inr ⟨holds, answers, earlier⟩)

/-- Where all stages hold and none is stumbled over, none can fail. -/
theorem answers_of_not_stumbles {stages : List Stage} (hold : ∀ stage ∈ stages, stage.holds)
    (none : ∀ error, ¬Stumbles stages error) :
    ∀ stage ∈ stages, ∀ error, ¬stage.fails error := by
  induction stages with
  | nil => simp
  | cons stage stages ih =>
      rw [List.forall_mem_cons] at hold ⊢
      have answers : ∀ error, ¬stage.fails error := fun error fails => none error (.inl fails)
      exact ⟨answers, ih hold.2 fun error stumbles => none error (.inr ⟨hold.1, answers, stumbles⟩)⟩

/-- The computation succeeds only if all stages hold, is rejected with errors of value
where one does not, and fails where it stumbles. -/
structure Follows {α : Type} (value : Except Raised α) (stages : List Stage) : Prop where
  accepted : ∀ result, value = .ok result → ∀ stage ∈ stages, stage.holds
  rejected : ∀ error, value = .error error →
    error.isValueError ∧ (∃ stage ∈ stages, ¬stage.holds) ∨ Stumbles stages error
  failed : ∀ error, Stumbles stages error → value = .error error

namespace Follows

variable {α β : Type}

theorem ok (result : α) : Follows (.ok result) [] :=
  ⟨fun _ _ _ member => absurd member List.not_mem_nil, fun _ raised => (by cases raised),
    fun _ stumbles => stumbles.elim⟩

theorem ask {result : α} {condition : Prop} (holds : condition) :
    Follows (.ok result) [.ask condition] := by
  refine ⟨fun _ _ => List.forall_mem_singleton.mpr holds, fun _ raised => (by cases raised), ?_⟩
  rintro error (fails | ⟨_, _, none⟩)
  · exact fails.elim
  · exact none.elim

theorem invalid {error : Raised} {condition : Prop} (isValue : error.isValueError)
    (violated : ¬condition) : Follows (.error error : Except Raised α) [.ask condition] := by
  refine ⟨fun _ same => (by cases same), ?_, ?_⟩
  · rintro _ ⟨⟩
    exact .inl ⟨isValue, _, List.mem_singleton_self _, violated⟩
  · rintro other (fails | ⟨_, _, none⟩)
    · exact fails.elim
    · exact none.elim

/-- A conversion fails with its own errors. -/
theorem convert {value : Except Raised α} {fails : Raised → Prop}
    (own : ∀ error, fails error ↔ value = .error error) : Follows value [.convert fails] := by
  refine ⟨fun _ _ => List.forall_mem_singleton.mpr trivial, fun error raised => ?_, ?_⟩
  · exact .inr (.inl ((own error).mpr raised))
  · rintro error (found | ⟨_, _, none⟩)
    · exact (own error).mp found
    · exact none.elim

theorem bind {value : Except Raised α} {next : α → Except Raised β} {first second : List Stage}
    (follows : Follows value first)
    (continues : ∀ result, value = .ok result → Follows (next result) second) :
    Follows (value >>= next) (first ++ second) := by
  cases value with
  | ok result =>
      have rest := continues result rfl
      have hold := follows.accepted result rfl
      have none : ∀ error, ¬Stumbles first error := fun error stumbles => by
        cases follows.failed error stumbles
      refine ⟨fun found same => ?_, fun error same => ?_, fun error stumbles => ?_⟩
      · exact List.forall_mem_append.mpr ⟨hold, rest.accepted found same⟩
      · rw [stumbles_append_iff]
        rcases rest.rejected error same with ⟨isValue, stage, member, violated⟩ | stumbles
        · exact .inl ⟨isValue, stage, List.mem_append_right _ member, violated⟩
        · exact .inr (.inr ⟨hold, none, stumbles⟩)
      · rcases stumbles_append_iff.mp stumbles with earlier | ⟨_, _, later⟩
        · exact absurd earlier (none error)
        · exact rest.failed error later
  | error error =>
      refine ⟨fun _ same => (by cases same), ?_, fun other stumbles => ?_⟩
      · rintro _ ⟨⟩
        rw [stumbles_append_iff]
        rcases follows.rejected error rfl with ⟨isValue, stage, member, violated⟩ | stumbles
        · exact .inl ⟨isValue, stage, List.mem_append_left _ member, violated⟩
        · exact .inr (.inl stumbles)
      · rcases stumbles_append_iff.mp stumbles with earlier | ⟨hold, none, _⟩
        · cases follows.failed other earlier
          rfl
        · rcases follows.rejected error rfl with ⟨_, stage, member, violated⟩ | earlier
          · exact absurd (hold stage member) violated
          · exact absurd earlier (none error)

/-- A condition that holds already. -/
theorem asked {value : Except Raised α} {condition : Prop} {stages : List Stage}
    (holds : condition) (follows : Follows value stages) :
    Follows value (.ask condition :: stages) :=
  have passes : Follows (.ok () : Except Raised Unit) [.ask condition] := ask holds
  passes.bind fun _ _ => follows

/-- A condition that does not hold ends the computation. -/
theorem refused {error : Raised} {condition : Prop} {stages : List Stage}
    (isValue : error.isValueError) (violated : ¬condition) :
    Follows (.error error : Except Raised α) (.ask condition :: stages) := by
  have refuses : Follows (.error error : Except Raised Unit) [.ask condition] :=
    invalid isValue violated
  have continues : ∀ result, (.error error : Except Raised Unit) = .ok result →
      Follows ((fun _ => .error error : Unit → Except Raised α) result) stages :=
    fun _ same => (by cases same)
  exact refuses.bind continues

/-- The stages of a loop are those of its rounds. -/
theorem forM {items : List α} {check : α → Except Raised Unit} {stages : α → List Stage}
    (follows : ∀ item ∈ items, Follows (check item) (stages item)) :
    Follows (items.forM check) (items.flatMap stages) := by
  induction items with
  | nil => exact ok ()
  | cons item items ih =>
      rw [List.forall_mem_cons] at follows
      change Follows (check item >>= fun _ => items.forM check)
        (stages item ++ items.flatMap stages)
      exact follows.1.bind fun _ _ => ih follows.2

/-- A computation that cannot fail checks nothing. -/
theorem read {value : Except Raised α} {next : α → Except Raised β} {stages : List Stage}
    (succeeds : ∃ result, value = .ok result)
    (continues : ∀ result, value = .ok result → Follows (next result) stages) :
    Follows (value >>= next) stages := by
  rcases succeeds with ⟨result, rfl⟩
  exact continues result rfl

/-- It succeeds where all stages hold and none is stumbled over. -/
theorem ok_iff {value : Except Raised α} {stages : List Stage} (follows : Follows value stages) :
    (∃ result, value = .ok result) ↔
      (∀ stage ∈ stages, stage.holds) ∧ ∀ error, ¬Stumbles stages error := by
  constructor
  · rintro ⟨result, rfl⟩
    exact ⟨follows.accepted result rfl, fun error stumbles => by
      cases follows.failed error stumbles⟩
  · rintro ⟨hold, none⟩
    cases value with
    | ok result => exact ⟨result, rfl⟩
    | error error =>
        rcases follows.rejected error rfl with ⟨_, stage, member, violated⟩ | stumbles
        · exact absurd (hold stage member) violated
        · exact absurd stumbles (none error)

end Follows

/-- A key of a mapping at some depth, through mappings and lists. -/
inductive KeyWithin (key : Yaml) : Yaml → Prop
  | here {entries : List (Yaml × Yaml)} {value : Yaml} (mem : (key, value) ∈ entries) :
      KeyWithin key (.mapping entries)
  | entry {entries : List (Yaml × Yaml)} {name value : Yaml} (mem : (name, value) ∈ entries)
      (within : KeyWithin key value) : KeyWithin key (.mapping entries)
  | item {items : List Yaml} {value : Yaml} (mem : value ∈ items) (within : KeyWithin key value) :
      KeyWithin key (.list items)

variable [Interpreter]

/-- The integer that a value denotes; a fraction denotes none. -/
def Yaml.denoted : Yaml → Option ℤ
  | .float _ (some value) => if value.den = 1 then some value.num else none
  | value => value.integer.toOption

/-- The value of a key is a list of strings. -/
def IsTexts (data : List (Yaml × Yaml)) (key : String) (texts : List String) : Prop :=
  Yaml.lookup key data = some (.list (texts.map .text))

/-- The value of a key is a list of known events. -/
def KnownEvents (data : List (Yaml × Yaml)) (key : String) : Prop :=
  ∃ events, IsTexts data key events ∧ ∀ event ∈ events, event ∈ allEventNames

/-- The fault is a mapping, whose type prints as a known one. -/
def KnownFault (data : List (Yaml × Yaml)) : Prop :=
  ∃ entries, Yaml.lookup "fault" data = some (.mapping entries) ∧
    ∃ type ∈ faultTypes, ((Yaml.lookup "type" entries).getD (.text "")).str = .ok type

/-- The mappings that are scenarios. -/
structure ScenarioGrammar (data : List (Yaml × Yaml)) : Prop where
  safe : ∀ key, KeyWithin key (.mapping data) → ∀ name ∈ unsafeKeys, key.str ≠ .ok name
  required : ∀ key ∈ requiredKeys, (Yaml.lookup key data).isSome
  fault : KnownFault data
  timeout : ∃ value timeout, Yaml.lookup "timeout_seconds" data = some value ∧
    value.denoted = some timeout ∧ 1 ≤ timeout ∧ timeout ≤ maxTimeoutSeconds
  category : ∃ value, Yaml.lookup "category" data = some value ∧
    ∃ category ∈ taxonomy, value.str = .ok category
  expected : KnownEvents data "expected_events"
  forbidden : KnownEvents data "forbidden_events"
  preconditions : ∃ texts, IsTexts data "preconditions" texts

/-- The parser accepts the scenarios, and rejects every other mapping with a
`ValueError`. -/
def ParsesExactly (data : List (Yaml × Yaml)) (path : Path) : Prop :=
  (ScenarioGrammar data → ∃ scenario, parseScenario data path = .ok scenario) ∧
    (¬ScenarioGrammar data →
      ∃ error, parseScenario data path = .error error ∧ error.isValueError)

/-- The stages of the search for unsafe keys, in order: the keys, which must be printed
and are not unsafe, and places that are too deep in the mapping for a further call. -/
def keyStages : ℕ → Yaml → List Stage
  | 0, _ => [.convert (· = tooManyCalls)]
  | limit + 1, .mapping entries => entries.flatMap fun (key, value) =>
      [.convert fun error => key.str = .error error,
        .ask (∀ name ∈ unsafeKeys, key.str ≠ .ok name)] ++ keyStages limit value
  | limit + 1, .list items => items.flatMap (keyStages limit)
  | _ + 1, _ => []

/-- The value of a key is printed. -/
def printStage (data : List (Yaml × Yaml)) (key : String) : Stage :=
  .convert fun error => ∃ value, Yaml.lookup key data = some value ∧ value.str = .error error

/-- A setting of the fault is printed, if it is there. -/
def faultStage (data : List (Yaml × Yaml)) (key : String) : Stage :=
  .convert fun error => ∃ entries value, Yaml.lookup "fault" data = some (.mapping entries) ∧
    Yaml.lookup key entries = some value ∧ value.str = .error error

/-- The timeout that the code reads is an integer between the bounds. -/
def TimeoutRead (data : List (Yaml × Yaml)) : Prop :=
  ∃ value timeout, Yaml.lookup "timeout_seconds" data = some value ∧ value.integer = .ok timeout ∧
    1 ≤ timeout ∧ timeout ≤ maxTimeoutSeconds

/-- The checks and conversions of the parser, in order. -/
def stages (data : List (Yaml × Yaml)) : List Stage :=
  keyStages callLimit (.mapping data) ++
    [.ask (∀ key ∈ requiredKeys, (Yaml.lookup key data).isSome),
      .ask (∃ entries, Yaml.lookup "fault" data = some (.mapping entries)),
      faultStage data "type", faultStage data "target", faultStage data "value",
      .ask (KnownFault data),
      .convert fun error => ∃ value, Yaml.lookup "timeout_seconds" data = some value ∧
        value.integer = .error error,
      .ask (TimeoutRead data),
      printStage data "category",
      .ask (∃ value, Yaml.lookup "category" data = some value ∧
        ∃ category ∈ taxonomy, value.str = .ok category),
      .ask (∃ texts, IsTexts data "expected_events" texts),
      .ask (∃ texts, IsTexts data "forbidden_events" texts),
      .ask (KnownEvents data "expected_events" ∧ KnownEvents data "forbidden_events"),
      printStage data "id", printStage data "title", printStage data "description",
      .ask (∃ texts, IsTexts data "preconditions" texts),
      printStage data "expected_control_plane", printStage data "expected_user_plane",
      printStage data "recovery_action", printStage data "recovery_expectation"]

/-- The timeout is a fraction that is cut to an integer between the bounds. -/
def CutTimeout (data : List (Yaml × Yaml)) : Prop :=
  ∃ printed value, Yaml.lookup "timeout_seconds" data = some (.float printed (some value)) ∧
    value.den ≠ 1 ∧ 1 ≤ Yaml.truncate value ∧ Yaml.truncate value ≤ maxTimeoutSeconds

/-- Where the parser cannot convert a value, it raises a `ValueError` in a mapping that is
no scenario anyway, and a fraction that is cut is in no mapping that it accepts otherwise. -/
structure Convertible (data : List (Yaml × Yaml)) : Prop where
  converts : ∀ error, Stumbles (stages data) error →
    error.isValueError ∧ ¬ScenarioGrammar data
  whole : CutTimeout data →
    (∃ stage ∈ stages data, ¬stage.holds) ∨ ∃ error, Stumbles (stages data) error

theorem rejectUnsafeKeys_follows (limit : ℕ) (path : String) (value : Yaml) :
    Follows (rejectUnsafeKeys limit path value) (keyStages limit value) := by
  induction limit generalizing path value with
  | zero =>
      rw [rejectUnsafeKeys, keyStages]
      exact .convert fun error =>
        ⟨fun same => by rw [same], fun same => (Except.error.inj same).symm⟩
  | succ limit ih =>
      cases value with
      | mapping entries =>
          rw [rejectUnsafeKeys, keyStages]
          refine .forM fun entry _ => ?_
          rcases entry with ⟨key, value⟩
          have printing : Follows key.str [.convert fun error => key.str = .error error] :=
            .convert fun error => Iff.rfl
          refine printing.bind fun name printed => ?_
          dsimp only
          split
          case isTrue isUnsafe =>
            exact .refused rfl fun safe => safe name isUnsafe printed
          case isFalse safe =>
            refine .asked (fun other isUnsafe same => ?_) (ih _ value)
            rw [printed, Except.ok.injEq] at same
            exact safe (same ▸ isUnsafe)
      | list items =>
          rw [rejectUnsafeKeys, keyStages]
          have rounds : items.flatMap (keyStages limit) =
              items.zipIdx.flatMap fun entry => keyStages limit entry.1 := by
            conv_lhs => rw [← List.zipIdx_map_fst 0 items, List.flatMap_map]
          rw [rounds]
          exact .forM fun entry _ => ih _ entry.1
      | _ => exact .ok ()

/-- The search looks at keys of the mapping only. -/
theorem keyStages_hold {value : Yaml}
    (safe : ∀ key, KeyWithin key value → ∀ name ∈ unsafeKeys, key.str ≠ .ok name) (limit : ℕ) :
    ∀ stage ∈ keyStages limit value, stage.holds := by
  induction limit generalizing value with
  | zero => exact List.forall_mem_singleton.mpr trivial
  | succ limit ih =>
      cases value with
      | mapping entries =>
          intro stage member
          rcases List.mem_flatMap.mp member with ⟨⟨key, value⟩, inside, member⟩
          rcases List.mem_append.mp member with own | within
          · simp only [List.mem_cons, List.not_mem_nil, or_false] at own
            rcases own with rfl | rfl
            · trivial
            · exact safe key (.here inside)
          · exact ih (fun inner found => safe inner (.entry inside found)) stage within
      | list items =>
          intro stage member
          rcases List.mem_flatMap.mp member with ⟨value, inside, within⟩
          exact ih (fun inner found => safe inner (.item inside found)) stage within
      | _ => exact fun stage member => absurd member List.not_mem_nil

/-- The search looks at every key, or comes to a place that is too deep. -/
theorem keyStages_complete {value key : Yaml} (within : KeyWithin key value) (limit : ℕ) :
    .ask (∀ name ∈ unsafeKeys, key.str ≠ .ok name) ∈ keyStages limit value ∨
      .convert (· = tooManyCalls) ∈ keyStages limit value := by
  induction limit generalizing value with
  | zero => exact .inr (List.mem_singleton_self _)
  | succ limit ih =>
      cases within with
      | here member =>
          exact .inl (List.mem_flatMap.mpr ⟨_, member, List.mem_append_left _
            (List.mem_cons_of_mem _ List.mem_cons_self)⟩)
      | entry member inner =>
          have lift {stage : Stage} (found : stage ∈ keyStages limit _) :
              stage ∈ keyStages (limit + 1) (.mapping _) :=
            List.mem_flatMap.mpr ⟨_, member, List.mem_append_right _ found⟩
          exact (ih inner).imp lift lift
      | item member inner =>
          have lift {stage : Stage} (found : stage ∈ keyStages limit _) :
              stage ∈ keyStages (limit + 1) (.list _) := List.mem_flatMap.mpr ⟨_, member, found⟩
          exact (ih inner).imp lift lift

/-- A search that comes to its end has found no unsafe key. -/
theorem safe_of_keyStages {limit : ℕ} {value : Yaml}
    (hold : ∀ stage ∈ keyStages limit value, stage.holds)
    (none : ∀ error, ¬Stumbles (keyStages limit value) error) :
    ∀ key, KeyWithin key value → ∀ name ∈ unsafeKeys, key.str ≠ .ok name := by
  intro key within
  rcases keyStages_complete within limit with asked | deep
  · exact hold _ asked
  · exact absurd rfl (answers_of_not_stumbles hold none _ deep tooManyCalls)

variable {data : List (Yaml × Yaml)} {path : Path}

omit [Interpreter] in
theorem item_ok {key : String} (present : (Yaml.lookup key data).isSome) :
    ∃ value, Yaml.item data key = .ok value := by
  rcases Option.isSome_iff_exists.mp present with ⟨value, found⟩
  exact ⟨value, by rw [Yaml.item, found]⟩

omit [Interpreter] in
theorem lookup_of_item {key : String} {value : Yaml} (read : Yaml.item data key = .ok value) :
    Yaml.lookup key data = some value := by
  unfold Yaml.item at read
  split at read
  case h_1 found =>
    cases read
    exact found
  case h_2 => cases read

theorem requireKeys_follows : Follows (requireKeys data path)
    [.ask (∀ key ∈ requiredKeys, (Yaml.lookup key data).isSome)] := by
  unfold requireKeys
  dsimp only
  split
  case isTrue complete =>
    refine .ask fun key mem => ?_
    have kept := List.filter_eq_nil_iff.mp complete key mem
    simpa [Option.isSome_iff_ne_none] using kept
  case isFalse incomplete =>
    refine .invalid rfl fun required => incomplete ?_
    refine List.filter_eq_nil_iff.mpr fun key mem => ?_
    have present := required key mem
    simpa [Option.isSome_iff_ne_none] using present

omit [Interpreter] in
/-- The value that is read is converted. -/
theorem conversion_follows {α : Type} {convert : Yaml → Except Raised α} {key : String}
    {value : Yaml} (read : Yaml.lookup key data = some value) :
    Follows (convert value) [.convert fun error =>
      ∃ value, Yaml.lookup key data = some value ∧ convert value = .error error] := by
  refine .convert fun error => ⟨?_, fun raised => ⟨value, read, raised⟩⟩
  rintro ⟨other, found, raised⟩
  cases read.symm.trans found
  exact raised

theorem str_follows {key : String} {value : Yaml} (read : Yaml.lookup key data = some value) :
    Follows value.str [printStage data key] :=
  conversion_follows read

theorem optionalText_follows {entries : List (Yaml × Yaml)} {key : String}
    (read : Yaml.lookup "fault" data = some (.mapping entries)) :
    Follows (optionalText entries key) [faultStage data key] := by
  refine .convert fun error => ?_
  unfold optionalText
  constructor
  · rintro ⟨others, value, found, setting, raised⟩
    cases read.symm.trans found
    rw [setting]
    dsimp only
    rw [raised]
    rfl
  · intro raised
    split at raised
    case h_1 value setting =>
      cases printed : value.str with
      | ok text => simp [printed, bind, Except.bind, pure, Except.pure] at raised
      | error other =>
          rw [printed] at raised
          cases raised
          exact ⟨entries, value, read, setting, printed⟩
    case h_2 => cases raised

/-- The fault that is read has the type that is printed. -/
theorem readFault_follows {entries : List (Yaml × Yaml)}
    (read : Yaml.lookup "fault" data = some (.mapping entries)) :
    Follows (readFault entries)
      [faultStage data "type", faultStage data "target", faultStage data "value"] := by
  have type : Follows ((Yaml.lookup "type" entries).getD (.text "")).str
      [faultStage data "type"] := by
    refine .convert fun error => ⟨?_, fun raised => ?_⟩
    · rintro ⟨others, value, found, setting, raised⟩
      cases read.symm.trans found
      rw [setting]
      exact raised
    · cases setting : Yaml.lookup "type" entries with
      | none =>
          rw [setting] at raised
          cases raised
      | some value =>
          rw [setting] at raised
          exact ⟨entries, value, read, setting, raised⟩
  refine type.bind fun _ _ => (optionalText_follows read).bind fun _ _ =>
    (optionalText_follows read).bind fun _ _ => .ok _

theorem readFault_type {entries : List (Yaml × Yaml)} {fault : FaultSpec}
    (read : readFault entries = .ok fault) :
    ((Yaml.lookup "type" entries).getD (.text "")).str = .ok fault.type := by
  rcases Except.bind_ok_iff.mp read with ⟨type, printed, read⟩
  rcases Except.bind_ok_iff.mp read with ⟨target, _, read⟩
  rcases Except.bind_ok_iff.mp read with ⟨value, _, same⟩
  cases same
  exact printed

theorem parseFault_follows {value : Yaml} (read : Yaml.lookup "fault" data = some value) :
    Follows (parseFault value path)
      [.ask (∃ entries, Yaml.lookup "fault" data = some (.mapping entries)),
        faultStage data "type", faultStage data "target", faultStage data "value",
        .ask (KnownFault data)] := by
  unfold parseFault
  split
  case h_1 entries =>
    refine .asked ⟨entries, read⟩ ?_
    refine (readFault_follows read).bind fun fault found => ?_
    have printed := readFault_type found
    split
    case isTrue known => exact .ask ⟨entries, read, fault.type, known, printed⟩
    case isFalse unknown =>
      refine .invalid rfl ?_
      rintro ⟨others, same, type, known, other⟩
      cases read.symm.trans same
      rw [printed, Except.ok.injEq] at other
      exact unknown (other ▸ known)
  case h_2 notMapping =>
    refine .refused rfl ?_
    rintro ⟨entries, found⟩
    exact notMapping entries (Option.some.inj (read.symm.trans found))

/-- The timeout of the code is the integer that the value converts to. -/
theorem parseTimeout_follows {value : Yaml}
    (read : Yaml.lookup "timeout_seconds" data = some value) :
    Follows (parseTimeout value path)
      [.convert fun error => ∃ value, Yaml.lookup "timeout_seconds" data = some value ∧
          value.integer = .error error,
        .ask (TimeoutRead data)] := by
  refine (conversion_follows read).bind fun timeout converted => ?_
  split
  case isTrue bounds => exact .ask ⟨value, timeout, read, converted, by omega, by omega⟩
  case isFalse outside =>
    refine .invalid rfl ?_
    rintro ⟨other, seconds, found, same, lower, upper⟩
    cases read.symm.trans found
    cases converted.symm.trans same
    exact outside ⟨by omega, by omega⟩

theorem parseCategory_follows {value : Yaml} (read : Yaml.lookup "category" data = some value) :
    Follows (parseCategory value path) [printStage data "category",
      .ask (∃ value, Yaml.lookup "category" data = some value ∧
        ∃ category ∈ taxonomy, value.str = .ok category)] := by
  refine (str_follows read).bind fun category printed => ?_
  split
  case isTrue known => exact .ask ⟨value, read, category, known, printed⟩
  case isFalse unknown =>
    refine .invalid rfl ?_
    rintro ⟨written, found, other, known, same⟩
    cases read.symm.trans found
    cases printed.symm.trans same
    exact unknown known

omit [Interpreter] in
theorem texts?_eq_some_iff {items : List Yaml} {texts : List String} :
    Yaml.texts? items = some texts ↔ items = texts.map .text := by
  induction items generalizing texts with
  | nil => cases texts <;> simp [Yaml.texts?]
  | cons item items ih =>
      cases texts with
      | nil => cases item <;> simp [Yaml.texts?]
      | cons text texts => cases item <;> simp [Yaml.texts?, ih, and_comm]

omit [Interpreter] in
theorem listOfStrings_eq_ok_iff {value : Yaml} {name : String} {texts : List String} :
    listOfStrings value name path = .ok texts ↔ value = .list (texts.map .text) := by
  unfold listOfStrings
  split
  case h_1 items =>
    split
    case h_1 found read =>
      rw [texts?_eq_some_iff] at read
      rw [Except.ok.injEq, Yaml.list.injEq, read]
      exact (List.map_injective_iff.mpr fun _ _ same => Yaml.text.inj same).eq_iff.symm
    case h_2 unread =>
      refine ⟨fun same => (by cases same), fun same => ?_⟩
      rw [texts?_eq_some_iff.mpr (Yaml.list.inj same)] at unread
      cases unread
  case h_2 notList => exact ⟨fun same => (by cases same), fun same => (notList _ same).elim⟩

omit [Interpreter] in
theorem isTexts_of_strings {key name : String} {value : Yaml} {texts : List String}
    (read : Yaml.lookup key data = some value)
    (strings : listOfStrings value name path = .ok texts) :
    IsTexts data key texts :=
  read.trans (congrArg some (listOfStrings_eq_ok_iff.mp strings))

omit [Interpreter] in
theorem listOfStrings_follows {value : Yaml} {key : String}
    (read : Yaml.lookup key data = some value) :
    Follows (listOfStrings value key path) [.ask (∃ texts, IsTexts data key texts)] := by
  cases strings : listOfStrings value key path with
  | ok texts => exact .ask ⟨texts, isTexts_of_strings read strings⟩
  | error error =>
      have isValue : error.isValueError := by
        unfold listOfStrings at strings
        split at strings
        · split at strings <;> cases strings
          rfl
        · cases strings
          rfl
      refine .invalid isValue ?_
      rintro ⟨texts, found⟩
      have same : value = .list (texts.map .text) := Option.some.inj (read.symm.trans found)
      rw [listOfStrings_eq_ok_iff.mpr same] at strings
      cases strings

omit [Interpreter] in
theorem IsTexts.unique {key : String} {texts events : List String} (first : IsTexts data key texts)
    (second : IsTexts data key events) : events = texts := by
  have same : Yaml.list (events.map .text) = .list (texts.map .text) :=
    Option.some.inj (second.symm.trans first)
  exact List.map_injective_iff.mpr (fun _ _ => Yaml.text.inj) (Yaml.list.inj same)

theorem parseEvents_follows {expected forbidden : Yaml}
    (expectedRead : Yaml.lookup "expected_events" data = some expected)
    (forbiddenRead : Yaml.lookup "forbidden_events" data = some forbidden) :
    Follows (parseEvents expected forbidden path)
      [.ask (∃ texts, IsTexts data "expected_events" texts),
        .ask (∃ texts, IsTexts data "forbidden_events" texts),
        .ask (KnownEvents data "expected_events" ∧ KnownEvents data "forbidden_events")] := by
  refine (listOfStrings_follows expectedRead).bind fun expectedEvents expectedStrings =>
    (listOfStrings_follows forbiddenRead).bind fun forbiddenEvents forbiddenStrings => ?_
  have expectedWritten := isTexts_of_strings expectedRead expectedStrings
  have forbiddenWritten := isTexts_of_strings forbiddenRead forbiddenStrings
  split
  case isTrue known =>
    refine .ask ⟨⟨_, expectedWritten, ?_⟩, ⟨_, forbiddenWritten, ?_⟩⟩
    · exact fun event found => known event (List.mem_append_left _ found)
    · exact fun event found => known event (List.mem_append_right _ found)
  case isFalse unknown =>
    refine .invalid rfl ?_
    rintro ⟨⟨expected, first, firstKnown⟩, ⟨forbidden, second, secondKnown⟩⟩
    rw [expectedWritten.unique first] at firstKnown
    rw [forbiddenWritten.unique second] at secondKnown
    exact unknown (List.forall_mem_append.mpr ⟨firstKnown, secondKnown⟩)

/-- The parser follows its stages. -/
theorem parseScenario_follows : Follows (parseScenario data path) (stages data) := by
  refine (rejectUnsafeKeys_follows _ _ _).bind fun _ _ => ?_
  refine requireKeys_follows.bind fun _ complete => ?_
  have required : ∀ key ∈ requiredKeys, (Yaml.lookup key data).isSome := by
    have asked : Follows (requireKeys data path) _ := requireKeys_follows
    exact asked.accepted _ complete _ (List.mem_singleton_self _)
  have present {key : String} (mem : key ∈ requiredKeys) := item_ok (required key mem)
  refine .read (present (by simp [requiredKeys])) fun fault faultRead => ?_
  refine (parseFault_follows (lookup_of_item faultRead)).bind fun _ _ => ?_
  refine .read (present (by simp [requiredKeys])) fun timeout timeoutRead => ?_
  refine (parseTimeout_follows (lookup_of_item timeoutRead)).bind fun _ _ => ?_
  refine .read (present (by simp [requiredKeys])) fun category categoryRead => ?_
  refine (parseCategory_follows (lookup_of_item categoryRead)).bind fun _ _ => ?_
  refine .read (present (by simp [requiredKeys])) fun expected expectedRead => ?_
  refine .read (present (by simp [requiredKeys])) fun forbidden forbiddenRead => ?_
  refine (parseEvents_follows (lookup_of_item expectedRead) (lookup_of_item forbiddenRead)).bind
    fun _ _ => ?_
  iterate 3
    refine .read (present (by simp [requiredKeys])) fun value read => ?_
    refine (str_follows (lookup_of_item read)).bind fun _ _ => ?_
  refine .read (present (by simp [requiredKeys])) fun preconditions preconditionsRead => ?_
  refine (listOfStrings_follows (lookup_of_item preconditionsRead)).bind fun _ _ => ?_
  iterate 4
    refine .read (present (by simp [requiredKeys])) fun value read => ?_
    refine (str_follows (lookup_of_item read)).bind fun _ _ => ?_
  refine .read (present (by simp [requiredKeys])) fun _ _ => ?_
  exact .ok _

/-- The integers of the grammar are those that the parser reads, the fractions apart. -/
theorem integer_of_denoted {value : Yaml} {timeout : ℤ} (denotes : value.denoted = some timeout) :
    value.integer = .ok timeout := by
  have converts {result : Except Raised ℤ} (found : result.toOption = some timeout) :
      result = .ok timeout := by
    cases result with
    | ok _ => exact congrArg Except.ok (Option.some.inj found)
    | error _ => cases found
  unfold Yaml.denoted at denotes
  split at denotes
  case h_1 printed value =>
    split at denotes
    case isTrue whole =>
      cases denotes
      have same : value = (value.num : ℚ) := ((Rat.den_eq_one_iff value).mp whole).symm
      rw [Yaml.integer]
      simp only [Yaml.truncate]
      rw [same]
      simp
    case isFalse => cases denotes
  case h_2 => exact converts denotes

/-- What the parser reads as a timeout, the value denotes, or it is a fraction that is
cut. -/
theorem denoted_or_cut {value : Yaml} {timeout : ℤ}
    (found : Yaml.lookup "timeout_seconds" data = some value)
    (converted : value.integer = .ok timeout) (lower : 1 ≤ timeout)
    (upper : timeout ≤ maxTimeoutSeconds) : value.denoted = some timeout ∨ CutTimeout data := by
  unfold Yaml.denoted
  split
  case h_1 printed value =>
    rw [Yaml.integer, Except.ok.injEq] at converted
    by_cases whole : value.den = 1
    · have same : value = (value.num : ℚ) := ((Rat.den_eq_one_iff value).mp whole).symm
      rw [if_pos whole, ← converted, Yaml.truncate, same]
      simp
    · exact .inr ⟨printed, value, found, whole, converted ▸ lower, converted ▸ upper⟩
  case h_2 => exact .inl (by rw [converted]; rfl)

/-- A scenario passes all stages. -/
theorem ScenarioGrammar.stages_hold (grammar : ScenarioGrammar data) :
    ∀ stage ∈ stages data, stage.holds := by
  rcases grammar with ⟨safe, required, fault, ⟨value, timeout, found, denotes, bounds⟩, category,
    expected, forbidden, preconditions⟩
  have mapping : ∃ entries, Yaml.lookup "fault" data = some (.mapping entries) :=
    fault.imp fun _ known => known.1
  have read : TimeoutRead data := ⟨value, timeout, found, integer_of_denoted denotes, bounds⟩
  have texts {key : String} (known : KnownEvents data key) : ∃ texts, IsTexts data key texts :=
    known.imp fun _ events => events.1
  refine List.forall_mem_append.mpr ⟨keyStages_hold safe _, ?_⟩
  simp only [List.mem_cons, List.not_mem_nil, or_false, forall_eq_or_imp, forall_eq]
  exact ⟨required, mapping, trivial, trivial, trivial, fault, trivial, read, trivial, category,
    texts expected, texts forbidden, ⟨expected, forbidden⟩, trivial, trivial, trivial,
    preconditions, trivial, trivial, trivial, trivial⟩

/-- A mapping that passes all stages is a scenario, unless its timeout is cut. -/
theorem grammar_or_cut (hold : ∀ stage ∈ stages data, stage.holds)
    (none : ∀ error, ¬Stumbles (stages data) error) : ScenarioGrammar data ∨ CutTimeout data := by
  have keys := List.forall_mem_append.mp hold
  have safe := safe_of_keyStages keys.1 fun error stumbles =>
    none error (stumbles_append_iff.mpr (.inl stumbles))
  have fields := keys.2
  simp only [List.mem_cons, List.not_mem_nil, or_false, forall_eq_or_imp, forall_eq] at fields
  rcases fields with ⟨required, _, _, _, _, fault, _, ⟨value, timeout, found, converted, lower,
    upper⟩, _, category, _, _, ⟨expected, forbidden⟩, _, _, _, preconditions, _⟩
  refine (denoted_or_cut found converted lower upper).imp_left fun denotes => ?_
  exact ⟨safe, required, fault, ⟨value, timeout, found, denotes, lower, upper⟩, category, expected,
    forbidden, preconditions⟩

/-- A fraction is no timeout of a scenario. -/
theorem CutTimeout.not_grammar (cut : CutTimeout data) : ¬ScenarioGrammar data := by
  rcases cut with ⟨printed, value, found, fraction, _⟩
  intro grammar
  rcases grammar.timeout with ⟨written, timeout, read, denotes, _⟩
  cases found.symm.trans read
  rw [Yaml.denoted, if_neg fraction] at denotes
  cases denotes

/-- A scenario without a fault, with the timeout that its file writes. -/
def noFaultMapping (timeout : Yaml) : List (Yaml × Yaml) :=
  [(.text "id", .text "no_fault"),
    (.text "title", .text "No fault"),
    (.text "category", .text "CONTROL_PLANE"),
    (.text "description", .text "Observe the lab without a fault."),
    (.text "preconditions", .list []),
    (.text "fault", .mapping [(.text "type", .text "none")]),
    (.text "expected_control_plane", .text "Unchanged."),
    (.text "expected_user_plane", .text "Unchanged."),
    (.text "expected_events", .list [.text "ng_setup"]),
    (.text "forbidden_events", .list []),
    (.text "recovery_action", .text "None."),
    (.text "recovery_expectation", .text "The baseline passes."),
    (.text "timeout_seconds", timeout),
    (.text "runtime_validated", .bool false)]

end FivegLab
