import FivegLab.Host.Command

/-!
# The baseline gate

`validate_baseline_result`: does a stored result unlock the faults of a run?
-/

namespace FivegLab

open Routine (raise attempt ofExcept)
open Host

structure BaselineGate where
  passed : Bool
  reason : String
  deriving DecidableEq, Repr

/-- `FINGERPRINT_RE.fullmatch(text)`. -/
def IsFingerprint (text : String) : Prop :=
  text.toList.length = 64 ∧ ∀ c ∈ text.toList, c ∈ "0123456789abcdef".toList

instance (text : String) : Decidable (IsFingerprint text) :=
  inferInstanceAs (Decidable (_ ∧ _))

/-- The fields that a baseline result must have, and the names of their types. -/
def requiredTypes : List (String × String) :=
  [("scenario_id", "str"), ("status", "str"), ("baseline_ready", "bool"),
    ("baseline_context_fingerprint", "str")]

/-- `data.get(key)`. -/
def Json.field (fields : List (String × Json)) (key : String) : Json :=
  (lookup key fields).getD .null

/-- The required fields that are missing or of another type. -/
def invalidFields (fields : List (String × Json)) : List String :=
  (requiredTypes.filter fun required =>
    (Json.field fields required.1).typeName ≠ required.2).map Prod.fst

/-- The text of a field, which has been checked to be a text. -/
def Json.textField (fields : List (String × Json)) (key : String) : String :=
  match field fields key with
  | .string text => text
  | _ => ""

/-- `sorted(names)`, as Python prints it. -/
def printNames (names : List String) : String :=
  "[" ++ ", ".intercalate ((names.insertionSort (· ≤ ·)).map fun name => "'" ++ name ++ "'") ++ "]"

/-- The verdict on the fields of a stored result. -/
def judgeFields (fields : List (String × Json)) (expectedFingerprint : String) : BaselineGate :=
  let fingerprint := Json.textField fields "baseline_context_fingerprint"
  if invalidFields fields ≠ [] then
    ⟨false, "malformed baseline result: invalid or missing fields " ++
      printNames (invalidFields fields)⟩
  else if ¬IsFingerprint fingerprint then
    ⟨false, "malformed baseline result: invalid context fingerprint"⟩
  else if Json.textField fields "scenario_id" ≠ "baseline_e2e" ∨
      Json.textField fields "status" ≠ "PASS" ∨
      Json.field fields "baseline_ready" ≠ .bool true then
    ⟨false, "baseline_e2e result is not a passing runtime baseline."⟩
  else if fingerprint ≠ expectedFingerprint then
    ⟨false, "baseline result does not match current runtime context."⟩
  else ⟨true, "baseline result matches current runtime context."⟩

/-- The verdict on a stored document. -/
def judgeDocument (data : Json) (expectedFingerprint : String) : BaselineGate :=
  match data with
  | .object fields => judgeFields fields expectedFingerprint
  | _ => ⟨false, "malformed baseline result: root must be an object"⟩

variable [JsonLibrary]

/-- `json.loads(path.read_text(encoding="utf-8"))`. -/
def loadFile (path : Path) : HostM Json := do
  let text ← readText path
  ofExcept (JsonLibrary.loads text)

/-- The file is read, and judged unless that fails. -/
def judgeFile (path : Path) (expectedFingerprint : String) : HostM BaselineGate := do
  match ← attempt (loadFile path) with
  | .ok data => return judgeDocument data expectedFingerprint
  | .error error =>
      if error.isOSError || error.kind = .jsonDecodeError then
        return ⟨false, "malformed baseline result: " ++ error.message⟩
      else raise error

def validateBaselineResult (path : Option Path) (expectedFingerprint : String) :
    HostM BaselineGate :=
  match path with
  | none => return ⟨false, "baseline_e2e result is required before fault scenarios run."⟩
  | some path => do
      if ← pathExists path then judgeFile path expectedFingerprint
      else return ⟨false, "baseline result does not exist: " ++ path.text⟩

end FivegLab
