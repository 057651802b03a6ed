import FivegLab.Models
import FivegLab.Yaml

/-!
# Looking into configuration documents

The lookups that the static validation makes in YAML documents, and the checks
that it reports.  A value is printed as `str` prints it when it returns.  Where it
raises, at an integer of too many digits or at containers too deep for the stack, the
validation reports no checks, and nothing is said about it here.
-/

namespace FivegLab

/-- The entries of a mapping. -/
abbrev Entries := List (Yaml × Yaml)

/-- A step into a document. -/
inductive Key
  | name (text : String)
  | index (position : ℕ)
  deriving DecidableEq, Repr

namespace Config

open Yaml

/-- A mapping with names as its keys. -/
def record (fields : List (String × Yaml)) : Yaml :=
  .mapping (fields.map fun field => (.text field.1, field.2))

def record.entries (fields : List (String × Yaml)) : Entries :=
  fields.map fun field => (.text field.1, field.2)

/-- `entries.get(key)`. -/
def entry (entries : Entries) (key : String) : Yaml := (lookup key entries).getD .null

/-- `nested(data, *keys)`: nothing is found below a value of another kind. -/
def nested (data : Yaml) : List Key → Yaml
  | [] => data
  | .index position :: keys =>
      match data with
      | .list items => nested (items[position]?.getD .null) keys
      | _ => .null
  | .name key :: keys =>
      match data with
      | .mapping entries => nested (entry entries key) keys
      | _ => .null

theorem nested_append (data : Yaml) (before after : List Key) :
    nested data (before ++ after) = nested (nested data before) after := by
  have null (keys : List Key) : nested .null keys = .null := by
    cases keys with
    | nil => rfl
    | cons key keys => cases key <;> rfl
  induction before generalizing data with
  | nil => rfl
  | cons key before ih =>
      cases key with
      | name key => cases data <;> simp [nested, ih, null]
      | index position => cases data <;> simp [nested, ih, null]

/-- `nested` along names. -/
def nestedNames (data : Entries) (names : List String) : Yaml :=
  nested (.mapping data) (names.map .name)

/-- `list_first(value)`. -/
def listFirst : Yaml → Entries
  | .list (.mapping entries :: _) => entries
  | _ => []

/-- `value is True`. -/
def isTrue : Yaml → Bool
  | .bool value => value
  | _ => false

/-- `value is False`. -/
def isFalse : Yaml → Bool
  | .bool value => !value
  | _ => false

/-- `value == text`. -/
def isText (value : Yaml) (text : String) : Bool := equal value (.text text)

/-- `value == texts`. -/
def isTexts (value : Yaml) (texts : List String) : Bool := equal value (.list (texts.map .text))

/-- `test(value.get(key, default))`. -/
def getIs (value : Yaml) (key : String) (test : Yaml → Bool) (default : Yaml := .null) :
    Except Raised Bool := do
  return test (← value.get key default)

/-- `first and second and ...`: nothing is evaluated after the first that fails. -/
def conjunction : List (Except Raised Bool) → Except Raised Bool
  | [] => .ok true
  | condition :: conditions => do
      if ← condition then conjunction conditions else return false

def check (name : String) (ok : Bool) (detail : String) : Check :=
  ⟨name, if ok then .pass else .fail, detail⟩

def warning (name detail : String) : Check := ⟨name, .warn, detail⟩

/-- `checks_pass(checks)`. -/
def ChecksPass (checks : List Check) : Prop := ∀ check ∈ checks, check.status ≠ .fail

instance (checks : List Check) : Decidable (ChecksPass checks) :=
  inferInstanceAs (Decidable (∀ check ∈ checks, check.status ≠ .fail))

@[simp]
theorem check_passes_iff {name detail : String} {ok : Bool} :
    (check name ok detail).status ≠ .fail ↔ ok = true := by
  cases ok <;> simp [check]

variable [Unicode]

/-- `service_ip(compose, service)`. -/
def serviceIp (compose : Entries) (service : String) : Option String :=
  match nestedNames compose ["services", service, "networks", "core", "ipv4_address"] with
  | .null => none
  | value => some value.printed

/-- A text that may be missing, as it is compared and printed. -/
def ofOption : Option String → Yaml
  | some value => .text value
  | none => .null

end Config

end FivegLab
