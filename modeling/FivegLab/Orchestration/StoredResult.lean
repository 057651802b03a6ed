import FivegLab.JsonDecoder
import FivegLab.Orchestration.Context
import FivegLab.Orchestration.Unlocking

/-!
# The file of a baseline result

What the gate makes of whatever is stored at the path of a baseline result: any
bytes, or a directory.
-/

namespace FivegLab

open Routine Host JsonDecoder

/-- `bytes.decode("utf-8")`, if the bytes are UTF-8. -/
def decodeUtf8 (bytes : Bytes) : Option String := String.fromUTF8? bytes.toByteArray

theorem toByteArray_encode (text : String) : (encode text).toByteArray = text.toByteArray := by
  rw [encode, ← List.utf8Encode, String.utf8Encode_toList]

theorem toByteArray_inj {bytes other : Bytes} (same : bytes.toByteArray = other.toByteArray) :
    bytes = other := by
  rw [← List.toList_data_toByteArray (l := bytes), same, List.toList_data_toByteArray]

theorem decodeUtf8_eq_some_iff {bytes : Bytes} {text : String} :
    decodeUtf8 bytes = some text ↔ encode text = bytes := by
  rw [decodeUtf8, String.fromUTF8?, Option.dite_none_right_eq_some]
  constructor
  · rintro ⟨valid, read⟩
    rw [Option.some.injEq] at read
    apply toByteArray_inj
    rw [toByteArray_encode, ← read]
    rfl
  · rintro rfl
    have valid : (encode text).toByteArray.IsValidUTF8 := by
      rw [toByteArray_encode]
      exact text.isValidUTF8
    refine ⟨valid, ?_⟩
    rw [Option.some.injEq, ← String.toByteArray_inj]
    exact toByteArray_encode text

/-- The line ends of a file that is opened as text. -/
def universalNewlines : List Char → List Char
  | [] => []
  | '\r' :: '\n' :: rest => '\n' :: universalNewlines rest
  | c :: rest => (if c = '\r' then '\n' else c) :: universalNewlines rest

theorem universalNewlines_eq {text : List Char} (plain : '\r' ∉ text) :
    universalNewlines text = text := by
  induction text using universalNewlines.induct with
  | case1 => rfl
  | case2 rest => simp at plain
  | case3 c rest other ih =>
      rw [List.mem_cons, not_or] at plain
      rw [universalNewlines, ih plain.2, if_neg (Ne.symm plain.1)]
      exact other

/-- What is stored at a path that exists. -/
inductive Stored
  | file (bytes : Bytes)
  | directory
  deriving DecidableEq, Repr

namespace Stored

/-- `path.read_text(encoding="utf-8")`; `undecodable` tells what is wrong with bytes. -/
def readText (undecodable : Bytes → String) (path : Path) : Stored → Except Raised String
  | .file bytes =>
      match decodeUtf8 bytes with
      | some text => .ok (String.ofList (universalNewlines text.toList))
      | none => .error ⟨.unicodeDecodeError, undecodable bytes⟩
  | .directory => .error ⟨.osError, "[Errno 21] Is a directory: '" ++ path.text ++ "'"⟩

/-- What the gate asks of the host for something that is stored. -/
def reading (undecodable : Bytes → String) (path : Path) (stored : Stored) : List (Event Host) :=
  [⟨.pathExists path, true⟩, ⟨.readText path, stored.readText undecodable path⟩]

/-- The text that is decoded as JSON. -/
def document : Stored → Option String
  | .file bytes => (decodeUtf8 bytes).map fun text => String.ofList (universalNewlines text.toList)
  | .directory => none

variable (printFloat : String → String) (limits : Limits)

/-- What the JSON decoder meets in a file. -/
def met (stored : Stored) : List Met :=
  match stored.document with
  | some text => (decode printFloat limits text.toList).met
  | none => []

/-- No container is nested deeper than the interpreter allows. -/
def NestedWithin (stored : Stored) : Prop :=
  ∀ kind depth, .container kind depth ∈ stored.met printFloat limits → depth ≤ limits.depth

/-- A directory, or UTF-8 in which no integer is longer than the interpreter allows. -/
def Readable : Stored → Prop
  | .file bytes => (∃ text, decodeUtf8 bytes = some text) ∧
      ∀ digits, .integer digits ∈ (file bytes).met printFloat limits → digits ≤ limits.digits
  | .directory => True

/-- The file of an object that the gate accepts for a fingerprint. -/
def Passing (stored : Stored) (fingerprint : String) : Prop :=
  ∃ text fields, stored.document = some text ∧
    loads printFloat limits text = .ok (.object fields) ∧ Accepted fields fingerprint

end Stored

/-- The verdict of the gate on what was loaded. -/
def judgeLoaded (fingerprint : String) (loaded : Except Raised Json) : Except Raised BaselineGate :=
  match loaded with
  | .ok data => .ok (judgeDocument data fingerprint)
  | .error error =>
      if error.isOSError || error.kind = .jsonDecodeError then
        .ok ⟨false, "malformed baseline result: " ++ error.message⟩
      else .error error

section Gate

variable {library : JsonLibrary} {path : Path} {fingerprint : String}

theorem judgeFile_eq :
    judgeFile path fingerprint =
      attempt (loadFile path) >>= fun loaded => ofExcept (judgeLoaded fingerprint loaded) := by
  rw [judgeFile]
  congr 1
  funext loaded
  cases loaded with
  | ok data => rfl
  | error error =>
      simp only [judgeLoaded]
      split
      · rfl
      · rfl

theorem runs_loadFile_iff {trace : List (Event Host)} {outcome : Except Raised Json} :
    (loadFile path).Runs () trace outcome () ↔
      ∃ read, trace = [⟨.readText path, read⟩] ∧ outcome = read.bind library.loads := by
  rw [loadFile, runs_bind_iff]
  constructor
  · rintro (⟨error, rfl, read⟩ | ⟨first, text, _, rest, rfl, read, parsed⟩)
    · exact ⟨_, runs_readText_iff.mp read, rfl⟩
    · rw [runs_ofExcept_iff] at parsed
      exact ⟨.ok text, by rw [runs_readText_iff.mp read, parsed.1, List.append_nil], parsed.2.1⟩
  · rintro ⟨read, rfl, rfl⟩
    cases read with
    | error error => exact .inl ⟨error, rfl, runs_readText_iff.mpr rfl⟩
    | ok text =>
        exact .inr ⟨_, text, (), [], rfl, runs_readText_iff.mpr rfl,
          runs_ofExcept_iff.mpr ⟨rfl, rfl, rfl⟩⟩

theorem runs_judgeFile_iff {trace : List (Event Host)} {outcome : Except Raised BaselineGate} :
    (judgeFile path fingerprint).Runs () trace outcome () ↔
      ∃ read, trace = [⟨.readText path, read⟩] ∧
        outcome = judgeLoaded fingerprint (read.bind library.loads) := by
  rw [judgeFile_eq, runs_bind_iff]
  constructor
  · rintro (⟨error, rfl, attempted⟩ | ⟨first, loaded, _, rest, rfl, attempted, judged⟩)
    · rcases runs_attempt_iff.mp attempted with ⟨_, impossible, _⟩
      cases impossible
    · rcases runs_attempt_iff.mp attempted with ⟨ended, same, loads⟩
      cases same
      rcases runs_loadFile_iff.mp loads with ⟨read, rfl, rfl⟩
      rw [runs_ofExcept_iff] at judged
      exact ⟨read, by rw [judged.1, List.append_nil], judged.2.1⟩
  · rintro ⟨read, rfl, rfl⟩
    exact .inr ⟨_, read.bind library.loads, (), [], rfl,
      runs_attempt_iff.mpr ⟨_, rfl, runs_loadFile_iff.mpr ⟨read, rfl, rfl⟩⟩,
      runs_ofExcept_iff.mpr ⟨rfl, rfl, rfl⟩⟩

/-- What the gate makes of a file that exists. -/
theorem runs_validateBaselineResult_iff {read : Except Raised String}
    {outcome : Except Raised BaselineGate} :
    (validateBaselineResult (some path) fingerprint).Runs ()
        [⟨.pathExists path, true⟩, ⟨.readText path, read⟩] outcome () ↔
      outcome = judgeLoaded fingerprint (read.bind library.loads) := by
  rw [validateBaselineResult, runs_bind_iff]
  constructor
  · rintro (⟨error, rfl, asked⟩ | ⟨first, found, _, rest, split, asked, judged⟩)
    · rcases runs_pathExists_iff.mp asked with ⟨_, impossible, _⟩
      cases impossible
    · rcases runs_pathExists_iff.mp asked with ⟨reply, rfl, same⟩
      cases same
      rw [List.cons_append, List.nil_append, List.cons.injEq, Event.mk.injEq] at split
      rcases split with ⟨⟨_, found⟩, rfl⟩
      cases found
      rw [if_pos rfl, runs_judgeFile_iff] at judged
      rcases judged with ⟨read', same, rfl⟩
      cases same
      rfl
  · rintro rfl
    exact .inr ⟨[_], true, (), [_], rfl, runs_pathExists_iff.mpr ⟨true, rfl, rfl⟩, by
      rw [if_pos rfl]
      exact runs_judgeFile_iff.mpr ⟨read, rfl, rfl⟩⟩

/-- The gate raises what it does not expect of a file. -/
theorem judgeLoaded_ok_iff {loaded : Except Raised Json} :
    (∃ gate, judgeLoaded fingerprint loaded = .ok gate) ↔
      ∀ error, loaded = .error error → error.isOSError = true ∨ error.kind = .jsonDecodeError := by
  cases loaded with
  | ok data => simp [judgeLoaded]
  | error error =>
      simp only [judgeLoaded, Except.error.injEq, forall_eq']
      split
      case isTrue expected => simpa using expected
      case isFalse unexpected => simpa using unexpected

theorem judgeLoaded_passed {loaded : Except Raised Json} {gate : BaselineGate}
    (judged : judgeLoaded fingerprint loaded = .ok gate) (passed : gate.passed = true) :
    ∃ fields, loaded = .ok (.object fields) ∧ Accepted fields fingerprint := by
  cases loaded with
  | ok data =>
      rw [judgeLoaded, Except.ok.injEq] at judged
      subst judged
      unfold judgeDocument at passed
      split at passed
      case h_1 fields => exact ⟨fields, rfl, judgeFields_passed_iff.mp passed⟩
      case h_2 => exact absurd passed Bool.false_ne_true
  | error error =>
      simp only [judgeLoaded] at judged
      split at judged
      · rw [Except.ok.injEq] at judged
        subst judged
        exact absurd passed Bool.false_ne_true
      · cases judged

end Gate

section Files

variable {printFloat : String → String} {limits : Limits}

/-- The gate expects every error of the decoder but that of a limit. -/
theorem loads_expected_iff {text : String} :
    (∀ error, loads printFloat limits text = .error error →
        error.isOSError = true ∨ error.kind = .jsonDecodeError) ↔
      ∀ met ∈ (decode printFloat limits text.toList).met, met.Within limits := by
  have limited : (decode printFloat limits text.toList).Limited limits := limited_decode _
  rw [Decoding.Limited] at limited
  have within : (∀ met ∈ (decode printFloat limits text.toList).met, met.Within limits) ↔
      ¬∃ met, (decode printFloat limits text.toList).outcome = .error (.limit met) := by
    rw [limited]
    push Not
    rfl
  rw [within, loads]
  cases (decode printFloat limits text.toList).outcome with
  | ok data => simp [Except.mapError]
  | error failure =>
      cases failure with
      | malformed message rest => simp [Except.mapError, Failure.raised]
      | limit met =>
          cases met with
          | integer digits => simp [Except.mapError, Failure.raised, Raised.isOSError]
          | container kind depth => simp [Except.mapError, Failure.raised, Raised.isOSError]

/-- The gate ends with a verdict on what is stored, and with a pass only on the
file of an object that it accepts. -/
def GateSettles (printFloat : String → String) (limits : Limits) (undecodable : Bytes → String)
    (path : Path) (stored : Stored) (fingerprint : String) : Prop :=
  ∃ gate : BaselineGate,
    (∀ outcome : Except Raised BaselineGate,
      (@validateBaselineResult (decoder printFloat limits) (some path) fingerprint).Runs ()
        (stored.reading undecodable path) outcome () ↔ outcome = .ok gate) ∧
    (gate.passed = true → stored.Passing printFloat limits fingerprint)

variable {undecodable : Bytes → String} {path : Path} {stored : Stored} {fingerprint : String}

/-- What the gate loads of something that is stored. -/
abbrev Stored.loaded (printFloat : String → String) (limits : Limits)
    (undecodable : Bytes → String) (path : Path) (stored : Stored) : Except Raised Json :=
  (stored.readText undecodable path).bind (loads printFloat limits)

theorem Stored.loaded_ok {data : Json}
    (loaded : stored.loaded printFloat limits undecodable path = .ok data) :
    ∃ text, stored.document = some text ∧ loads printFloat limits text = .ok data := by
  cases stored with
  | directory => simp [Stored.loaded, readText, Except.bind] at loaded
  | file bytes =>
      cases decoded : decodeUtf8 bytes with
      | none => simp [Stored.loaded, readText, decoded, Except.bind] at loaded
      | some text =>
          simp only [Stored.loaded, readText, decoded, Except.bind] at loaded
          exact ⟨_, by rw [document, decoded, Option.map_some], loaded⟩

/-- A verdict is given exactly when the error of loading, if any, is expected. -/
theorem gateSettles_iff_expected :
    GateSettles printFloat limits undecodable path stored fingerprint ↔
      ∀ error, stored.loaded printFloat limits undecodable path = .error error →
        error.isOSError = true ∨ error.kind = .jsonDecodeError := by
  have runs : ∀ outcome : Except Raised BaselineGate,
      (@validateBaselineResult (decoder printFloat limits) (some path) fingerprint).Runs ()
        (stored.reading undecodable path) outcome () ↔
      outcome = judgeLoaded fingerprint (stored.loaded printFloat limits undecodable path) :=
    fun _ => runs_validateBaselineResult_iff
  rw [GateSettles, ← judgeLoaded_ok_iff]
  simp only [runs]
  constructor
  · rintro ⟨gate, only, _⟩
    exact ⟨gate, (only _).mp rfl⟩
  · rintro ⟨gate, judged⟩
    refine ⟨gate, fun outcome => by rw [judged], ?_⟩
    intro passed
    rcases judgeLoaded_passed judged passed with ⟨fields, loaded, accepted⟩
    rcases Stored.loaded_ok loaded with ⟨text, document, decoded⟩
    exact ⟨text, fields, document, decoded, accepted⟩

/-- Bytes that are not UTF-8 raise an error that the gate does not expect. -/
theorem not_gateSettles_of_undecodable {bytes : Bytes} (undecoded : decodeUtf8 bytes = none) :
    ¬GateSettles printFloat limits undecodable path (.file bytes) fingerprint := by
  rw [gateSettles_iff_expected]
  intro expected
  have raised := expected ⟨.unicodeDecodeError, undecodable bytes⟩ (by
    simp only [Stored.loaded, Stored.readText, undecoded, Except.bind])
  simp [Raised.isOSError] at raised

/-- The gate takes a file within the nesting that the interpreter allows exactly
when it is readable. -/
theorem gateSettles_iff (nested : stored.NestedWithin printFloat limits) :
    GateSettles printFloat limits undecodable path stored fingerprint ↔
      stored.Readable printFloat limits := by
  cases stored with
  | directory =>
      rw [gateSettles_iff_expected]
      simp [Stored.loaded, Stored.readText, Stored.Readable, Except.bind, Raised.isOSError]
  | file bytes =>
      cases decoded : decodeUtf8 bytes with
      | none =>
          refine iff_of_false (not_gateSettles_of_undecodable decoded) ?_
          rintro ⟨⟨text, some⟩, _⟩
          rw [decoded] at some
          cases some
      | some text =>
          have met : (Stored.file bytes).met printFloat limits =
              (decode printFloat limits
                (String.ofList (universalNewlines text.toList)).toList).met := by
            rw [Stored.met, Stored.document, decoded, Option.map_some]
          have loaded : (Stored.file bytes).loaded printFloat limits undecodable path =
              loads printFloat limits (String.ofList (universalNewlines text.toList)) := by
            simp only [Stored.loaded, Stored.readText, decoded, Except.bind]
          rw [gateSettles_iff_expected, loaded, loads_expected_iff, Stored.Readable, ← met]
          constructor
          · intro within
            exact ⟨⟨text, decoded⟩, fun digits member => within _ member⟩
          · rintro ⟨_, short⟩ met member
            cases met with
            | integer digits => exact short digits member
            | container kind depth => exact nested kind depth member

/-- A file with an integer in a list. -/
theorem gateSettles_iff_list :
    GateSettles id ⟨4300, 1000⟩ (fun _ => "") (.ofText "result.json") (.file (encode "[[12]]"))
        (Sha256.hexdigest []) ↔
      (Stored.file (encode "[[12]]")).Readable id ⟨4300, 1000⟩ := by
  apply gateSettles_iff
  have decoded : (Stored.file (encode "[[12]]")).document = some "[[12]]" := by
    rw [Stored.document, decodeUtf8_eq_some_iff.mpr rfl]
    rfl
  have met : (Stored.file (encode "[[12]]")).met id ⟨4300, 1000⟩ =
      [.container "array" 1, .container "array" 2, .integer 2] := by
    rw [Stored.met, decoded]
    decide
  intro kind depth member
  rw [met] at member
  simp only [List.mem_cons, Met.container.injEq, reduceCtorEq, List.not_mem_nil, or_false] at member
  rcases member with ⟨_, rfl⟩ | ⟨_, rfl⟩
  · decide
  · decide

/-- A byte that no UTF-8 has. -/
theorem gateSettles_undecodable :
    ¬GateSettles id ⟨4300, 1000⟩
      (fun _ => "'utf-8' codec can't decode byte 0xff in position 0: invalid start byte")
      (.ofText "result.json") (.file [0xff]) (Sha256.hexdigest []) := by
  apply not_gateSettles_of_undecodable
  decide +kernel

end Files

end FivegLab
