import FivegLab.Path
import FivegLab.Scenario
import FivegLab.Yaml

/-!
# Parsing scenarios

`parse_scenario`: from a YAML mapping to a scenario, or the first error.
-/

namespace FivegLab

def unsafeKeys : List String := ["command", "shell", "script", "exec", "subprocess", "args"]

def requiredKeys : List String :=
  ["id", "title", "category", "description", "preconditions", "fault", "expected_control_plane",
    "expected_user_plane", "expected_events", "forbidden_events", "recovery_action",
    "recovery_expectation", "timeout_seconds", "runtime_validated"]

section

variable [Interpreter]

/-- There is no room for a further call. -/
def tooManyCalls : Raised := ⟨.recursionError, "maximum recursion depth exceeded"⟩

/-- Raise on an unsafe key at any depth, with room for some calls within each other. -/
def rejectUnsafeKeys : ℕ → String → Yaml → Except Raised Unit
  | 0, _, _ => .error tooManyCalls
  | limit + 1, path, .mapping entries => entries.forM fun (key, value) => do
      let name ← key.str
      if name ∈ unsafeKeys then
        throw (.valueError ("Unsafe scenario key " ++ path ++ "." ++ name ++ " is not allowed"))
      rejectUnsafeKeys limit (path ++ "." ++ name) value
  | limit + 1, path, .list items => items.zipIdx.forM fun (item, index) =>
      rejectUnsafeKeys limit (path ++ "[" ++ toString index ++ "]") item
  | _ + 1, _, _ => .ok ()

end

section

variable [Unicode]

def listOfStrings (value : Yaml) (name : String) (path : Path) : Except Raised (List String) :=
  match value with
  | .list items =>
      match Yaml.texts? items with
      | some texts => .ok texts
      | none => .error (.valueError (path.text ++ " " ++ name ++ " must be a list of strings"))
  | _ => .error (.valueError (path.text ++ " " ++ name ++ " must be a list of strings"))

def requireKeys (data : List (Yaml × Yaml)) (path : Path) : Except Raised Unit :=
  let missing := requiredKeys.filter fun key => (Yaml.lookup key data).isNone
  if missing = [] then .ok ()
  else .error (.valueError (path.text ++ " missing required keys: " ++ Yaml.reprTexts missing))

/-- The fault as it is written. -/
def FaultSpec.ofEntries (entries : List (Yaml × Yaml)) : FaultSpec where
  type := ((Yaml.lookup "type" entries).getD (.text "")).printed
  target := (Yaml.lookup "target" entries).map Yaml.printed
  value := (Yaml.lookup "value" entries).map Yaml.printed

end

variable [Interpreter]

/-- `str(entries[key]) if key in entries else None`. -/
def optionalText (entries : List (Yaml × Yaml)) (key : String) : Except Raised (Option String) :=
  match Yaml.lookup key entries with
  | some value => return some (← value.str)
  | none => return none

/-- The fault, when its settings can be printed. -/
def readFault (entries : List (Yaml × Yaml)) : Except Raised FaultSpec := do
  let type ← ((Yaml.lookup "type" entries).getD (.text "")).str
  let target ← optionalText entries "target"
  let value ← optionalText entries "value"
  return { type, target, value }

/-- A fault of a known type. -/
def parseFault (value : Yaml) (path : Path) :
    Except Raised { fault : FaultSpec // fault.type ∈ faultTypes } :=
  match value with
  | .mapping entries => do
      let fault ← readFault entries
      if known : fault.type ∈ faultTypes then return ⟨fault, known⟩
      else throw (.valueError (path.text ++ " invalid fault type: " ++ fault.type))
  | _ => .error (.valueError (path.text ++ " fault must be a mapping"))

def parseTimeout (value : Yaml) (path : Path) :
    Except Raised { timeout : ℕ // 0 < timeout ∧ timeout ≤ maxTimeoutSeconds } := do
  let timeout ← value.integer
  if bounds : 0 < timeout.toNat ∧ timeout.toNat ≤ maxTimeoutSeconds then
    return ⟨timeout.toNat, bounds⟩
  else
    throw (.valueError (path.text ++ " timeout_seconds must be 1.." ++ toString maxTimeoutSeconds))

def parseCategory (value : Yaml) (path : Path) :
    Except Raised { category : String // category ∈ taxonomy } := do
  let category ← value.str
  if known : category ∈ taxonomy then return ⟨category, known⟩
  else throw (.valueError (path.text ++ " invalid category: " ++ category))

/-- The expected and the forbidden events, all of them known. -/
def parseEvents (expected forbidden : Yaml) (path : Path) :
    Except Raised { events : List String × List String //
      ∀ event ∈ events.1 ++ events.2, event ∈ allEventNames } := do
  let expectedEvents ← listOfStrings expected "expected_events" path
  let forbiddenEvents ← listOfStrings forbidden "forbidden_events" path
  if known : ∀ event ∈ expectedEvents ++ forbiddenEvents, event ∈ allEventNames then
    return ⟨(expectedEvents, forbiddenEvents), known⟩
  else
    let unknown := (expectedEvents ++ forbiddenEvents).filter (· ∉ allEventNames)
    throw (.valueError (path.text ++ " unknown event names: " ++
      Yaml.reprTexts (unknown.dedup.insertionSort (· ≤ ·))))

def parseScenario (data : List (Yaml × Yaml)) (path : Path) : Except Raised Scenario := do
  rejectUnsafeKeys callLimit "$" (.mapping data)
  requireKeys data path
  let fault ← parseFault (← Yaml.item data "fault") path
  let timeout ← parseTimeout (← Yaml.item data "timeout_seconds") path
  let category ← parseCategory (← Yaml.item data "category") path
  let events ← parseEvents (← Yaml.item data "expected_events")
    (← Yaml.item data "forbidden_events")
    path
  let id ← (← Yaml.item data "id").str
  let title ← (← Yaml.item data "title").str
  let description ← (← Yaml.item data "description").str
  let preconditions ← listOfStrings (← Yaml.item data "preconditions") "preconditions" path
  let expectedControlPlane ← (← Yaml.item data "expected_control_plane").str
  let expectedUserPlane ← (← Yaml.item data "expected_user_plane").str
  let recoveryAction ← (← Yaml.item data "recovery_action").str
  let recoveryExpectation ← (← Yaml.item data "recovery_expectation").str
  let runtimeValidated ← Yaml.item data "runtime_validated"
  return {
    id
    title
    category := category.val
    description
    preconditions
    fault := fault.val
    expectedControlPlane
    expectedUserPlane
    expectedEvents := events.val.1
    forbiddenEvents := events.val.2
    recoveryAction
    recoveryExpectation
    timeoutSeconds := timeout.val
    runtimeValidated := runtimeValidated.truthy
    fault_known := fault.property
    timeout_bounds := timeout.property
    category_known := category.property
    events_known := events.property }

end FivegLab
