import FivegLab.Raised
import Mathlib.Data.List.Sort
import Mathlib.Data.String.Basic

/-!
# JSON documents

The values that the program reads and writes as JSON, the text that `json.dumps`
prints for them, and how the program takes values apart.  A float is known by
its printed form.
-/

namespace FivegLab

inductive Json
  | null
  | bool (value : Bool)
  | int (value : ℤ)
  | float (printed : String)
  | string (value : String)
  | array (items : List Json)
  | object (fields : List (String × Json))
  deriving Repr

namespace Json

mutual

/-- Equality of values, as a test. -/
def same : Json → Json → Bool
  | .null, .null => true
  | .bool first, .bool second => first == second
  | .int first, .int second => first == second
  | .float first, .float second => first == second
  | .string first, .string second => first == second
  | .array first, .array second => sameItems first second
  | .object first, .object second => sameFields first second
  | _, _ => false

def sameItems : List Json → List Json → Bool
  | [], [] => true
  | first :: firsts, second :: seconds => same first second && sameItems firsts seconds
  | _, _ => false

def sameFields : List (String × Json) → List (String × Json) → Bool
  | [], [] => true
  | (key, first) :: firsts, (key', second) :: seconds =>
      key == key' && same first second && sameFields firsts seconds
  | _, _ => false

end

mutual

theorem same_iff : ∀ first second : Json, first.same second = true ↔ first = second
  | .null, second | .bool _, second | .int _, second | .float _, second | .string _, second => by
      cases second <;> simp [same]
  | .array first, second => by
      cases second with
      | array second => simp [same, sameItems_iff first second]
      | _ => simp [same]
  | .object first, second => by
      cases second with
      | object second => simp [same, sameFields_iff first second]
      | _ => simp [same]

theorem sameItems_iff : ∀ first second : List Json, sameItems first second = true ↔ first = second
  | [], second => by cases second <;> simp [sameItems]
  | first :: firsts, second => by
      cases second with
      | nil => simp [sameItems]
      | cons second seconds => simp [sameItems, same_iff first second, sameItems_iff firsts seconds]

theorem sameFields_iff :
    ∀ first second : List (String × Json), sameFields first second = true ↔ first = second
  | [], second => by cases second <;> simp [sameFields]
  | (key, first) :: firsts, second => by
      cases second with
      | nil => simp [sameFields]
      | cons second seconds =>
          rcases second with ⟨key', second⟩
          simp [sameFields, same_iff first second, sameFields_iff firsts seconds, and_assoc]

end

instance : DecidableEq Json := fun first second => decidable_of_iff _ (same_iff first second)

def hexDigit (n : ℕ) : Char := if n < 10 then Char.ofNat (48 + n) else Char.ofNat (87 + n)

/-- `\uXXXX`, for one UTF-16 unit. -/
def escapeUnit (n : ℕ) : List Char :=
  ['\\', 'u', hexDigit (n / 4096 % 16), hexDigit (n / 256 % 16), hexDigit (n / 16 % 16),
    hexDigit (n % 16)]

/-- A character in a JSON string, in ASCII. -/
def escapeChar (c : Char) : List Char :=
  if c = '"' then ['\\', '"']
  else if c = '\\' then ['\\', '\\']
  else if c = '\n' then ['\\', 'n']
  else if c = '\r' then ['\\', 'r']
  else if c = '\t' then ['\\', 't']
  else if c.toNat = 8 then ['\\', 'b']
  else if c.toNat = 12 then ['\\', 'f']
  else if 0x20 ≤ c.toNat ∧ c.toNat ≤ 0x7e then [c]
  else if c.toNat < 0x10000 then escapeUnit c.toNat
  else escapeUnit (0xd800 + (c.toNat - 0x10000) / 0x400) ++
    escapeUnit (0xdc00 + (c.toNat - 0x10000) % 0x400)

def quote (text : String) : String :=
  String.ofList ('"' :: text.toList.flatMap escapeChar ++ ['"'])

/-- How `json.dumps` lays a document out. -/
structure Layout where
  itemSeparator : String := ", "
  keySeparator : String := ": "
  indent : Option ℕ := none
  sortKeys : Bool := false
  deriving DecidableEq, Repr

def Layout.plain : Layout := {}

/-- `separators=(",", ":"), sort_keys=True`. -/
def Layout.canonical : Layout := { itemSeparator := ",", keySeparator := ":", sortKeys := true }

/-- `indent=2`. -/
def Layout.indented : Layout := { itemSeparator := ",", indent := some 2 }

/-- `indent=2, sort_keys=True`. -/
def Layout.sorted : Layout := { itemSeparator := ",", indent := some 2, sortKeys := true }

/-- The line break before an item at a depth. -/
def Layout.break (layout : Layout) (depth : ℕ) : String :=
  match layout.indent with
  | none => ""
  | some width => "\n" ++ String.ofList (List.replicate (width * depth) ' ')

/-- Items between brackets, each on its own line when the layout is indented. -/
def enclose (layout : Layout) (depth : ℕ) (left right : String) (items : List String) : String :=
  if items = [] then left ++ right
  else left ++ layout.break (depth + 1) ++
    (layout.itemSeparator ++ layout.break (depth + 1)).intercalate items ++
    layout.break depth ++ right

theorem enclose_ends (layout : Layout) (depth : ℕ) {left right : String} {first last : Char}
    {items : List String} (some : items ≠ []) (opening : left.toList = [first])
    (closing : right.toList = [last]) :
    ∃ middle, (enclose layout depth left right items).toList = first :: (middle ++ [last]) := by
  rw [enclose, if_neg some]
  simp only [String.toList_append, opening, closing, List.cons_append, List.cons.injEq, true_and]
  exact ⟨_, rfl⟩

/-- Fields by key, when the layout sorts them. -/
def Layout.order {α : Type} (layout : Layout) (fields : List (String × α)) : List (String × α) :=
  if layout.sortKeys then
    fields.insertionSort fun first second => first.1 ≤ second.1
  else fields

theorem Layout.order_perm {α : Type} (layout : Layout) (fields : List (String × α)) :
    (layout.order fields).Perm fields := by
  rw [order]
  split
  · exact List.perm_insertionSort _ _
  · exact List.Perm.refl _

mutual

/-- `json.dumps(value, ...)`. -/
def dumps (layout : Layout) (depth : ℕ) : Json → String
  | .null => "null"
  | .bool true => "true"
  | .bool false => "false"
  | .int value => toString value
  | .float printed => printed
  | .string value => quote value
  | .array items => enclose layout depth "[" "]" (dumpItems layout (depth + 1) items)
  | .object fields => enclose layout depth "\x7b" "\x7d"
      ((layout.order (dumpFields layout (depth + 1) fields)).map fun field =>
        quote field.1 ++ layout.keySeparator ++ field.2)

def dumpItems (layout : Layout) (depth : ℕ) : List Json → List String
  | [] => []
  | item :: items => dumps layout depth item :: dumpItems layout depth items

def dumpFields (layout : Layout) (depth : ℕ) : List (String × Json) → List (String × String)
  | [] => []
  | (key, value) :: fields =>
      (key, dumps layout depth value) :: dumpFields layout depth fields

end

/-- `json.dumps(value, indent=2)`. -/
def pretty (value : Json) : String := value.dumps .indented 0

/-- `value.get(key)` of a mapping: the value of the last field of that name. -/
def lookup (key : String) (fields : List (String × Json)) : Option Json :=
  (fields.reverse.find? fun field => field.1 = key).map Prod.snd

/-- A list of texts. -/
def strings (texts : List String) : Json := .array (texts.map .string)

def ofOption (text : Option String) : Json :=
  match text with
  | some value => .string value
  | none => .null

/-- The name of the type that a value is loaded as. -/
def typeName : Json → String
  | .null => "NoneType"
  | .bool _ => "bool"
  | .int _ => "int"
  | .float _ => "float"
  | .string _ => "str"
  | .array _ => "list"
  | .object _ => "dict"

/-- `str(value)`; inside a list or a mapping, texts are quoted as in JSON. -/
def display : Json → String
  | .null => "None"
  | .bool true => "True"
  | .bool false => "False"
  | .string text => text
  | value => value.dumps .plain 0

/-- `value[key]`, for a key that is a text. -/
def index (value : Json) (key : String) : Except Raised Json :=
  match value with
  | .object fields =>
      match lookup key fields with
      | some found => .ok found
      | none => .error ⟨.keyError, "'" ++ key ++ "'"⟩
  | .array _ => .error ⟨.typeError, "list indices must be integers or slices, not str"⟩
  | .string _ => .error ⟨.typeError, "string indices must be integers, not 'str'"⟩
  | value => .error ⟨.typeError, "'" ++ value.typeName ++ "' object is not subscriptable"⟩

/-- `value.get(key, default)`. -/
def get (value : Json) (key : String) (default : Json) : Except Raised Json :=
  match value with
  | .object fields => .ok ((lookup key fields).getD default)
  | value => .error ⟨.attributeError, "'" ++ value.typeName ++ "' object has no attribute 'get'"⟩

/-- The values that `for item in value` goes through. -/
def elements : Json → Except Raised (List Json)
  | .array items => .ok items
  | .object fields => .ok (fields.map fun field => .string field.1)
  | .string text => .ok (text.toList.map fun c => .string c.toString)
  | value => .error ⟨.typeError, "'" ++ value.typeName ++ "' object is not iterable"⟩

/-- A value as an element of a set or a key of a mapping. -/
def hashable : Json → Except Raised Json
  | .array items => .error ⟨.typeError, "unhashable type: '" ++ (Json.array items).typeName ++ "'"⟩
  | .object fields =>
      .error ⟨.typeError, "unhashable type: '" ++ (Json.object fields).typeName ++ "'"⟩
  | value => .ok value

/-- `value == 0`. -/
def IsZero (value : Json) : Prop :=
  value = .int 0 ∨ value = .bool false ∨ value = .float "0.0" ∨ value = .float "-0.0"

instance (value : Json) : Decidable value.IsZero :=
  inferInstanceAs (Decidable (_ ∨ _ ∨ _ ∨ _))

end Json

/-- `json.loads`, which the program relies on but does not define. -/
class JsonLibrary where
  loads : String → Except Raised Json

/-- A library that loads the texts of some documents, and no other text. -/
abbrev JsonLibrary.ofDocuments (documents : List Json) : JsonLibrary where
  loads text :=
    match documents.find? fun document => document.dumps .canonical 0 = text ∨
      document.pretty = text with
    | some document => .ok document
    | none => .error ⟨.jsonDecodeError, "Expecting value: line 1 column 1 (char 0)"⟩

theorem JsonLibrary.ofDocuments_loads (document : Json) (rest : List Json) :
    (ofDocuments (document :: rest)).loads (document.dumps .canonical 0) = .ok document := by
  unfold JsonLibrary.loads ofDocuments
  simp

end FivegLab
