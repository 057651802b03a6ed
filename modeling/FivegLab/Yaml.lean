import FivegLab.Json
import FivegLab.Text
import Mathlib.Algebra.Order.Ring.Rat

/-!
# YAML documents

The values that `yaml.safe_load` builds, with the operations of the source
language on them: equality, truth, texts, integers, and lookups.  A float is
known by its printed form and, when it is finite, by its value.
-/

namespace FivegLab

/-- The tables of Unicode that texts and integers rest on. -/
class Unicode where
  isPrintable : Char → Bool
  decimal : Char → Option ℕ

/-- Tables of Unicode, as far as ASCII. -/
abbrev asciiTables : Unicode where
  isPrintable c := c.toNat < 0x80
  decimal c := if '0' ≤ c ∧ c ≤ '9' then some (c.toNat - 48) else none

/-- The interpreter that runs the program, with its tables of Unicode.  Its stack has
room for some calls within each other, and for printing containers within each
other, of which the program leaves at least a hundred each. -/
class Interpreter extends Unicode where
  spareCalls : ℕ
  sparePrints : ℕ

/-- The calls within each other that there is room for. -/
def callLimit [Interpreter] : ℕ := Interpreter.spareCalls + 100

/-- The containers within each other that can be printed. -/
def printLimit [Interpreter] : ℕ := Interpreter.sparePrints + 100

/-- An interpreter with the room that there always is. -/
abbrev asciiInterpreter : Interpreter := { asciiTables with spareCalls := 0, sparePrints := 0 }

/-- Dates, byte strings and sets, known by what the program asks of them.  Two of
them are equal when they have the same identity, and an element is known when it
is a text.  A set is printed only if its elements are. -/
structure OtherValue where
  typeName : String
  printed : String
  quoted : String
  prints : Except Raised Unit
  truthy : Bool
  integer : Except Raised ℤ
  elements : Except Raised (List (Option String))
  contains : String → Except Raised Bool
  identity : ℕ

inductive Yaml
  | null
  | bool (value : Bool)
  | int (value : ℤ)
  | float (printed : String) (value : Option ℚ)
  | text (value : String)
  | list (items : List Yaml)
  | mapping (entries : List (Yaml × Yaml))
  | other (value : OtherValue)

namespace Yaml

/-- The number that a value is compared as. -/
def number : Yaml → Option ℚ
  | .bool value => some (if value then 1 else 0)
  | .int value => some value
  | .float _ value => value
  | _ => none

def isNan : Yaml → Bool
  | .float printed none => printed = "nan"
  | _ => false

mutual

/-- `first == second`.  Inside of containers the one object that is not equal to
itself is found by its identity. -/
def equal : Yaml → Yaml → Bool
  | .null, .null => true
  | .text first, .text second => first = second
  | .list first, .list second => equalItems first second
  | .mapping first, .mapping second =>
      first.length = second.length && equalEntries first second
  | .other first, .other second => first.identity = second.identity
  | .float printed none, .float printed' none => printed = printed' && printed ≠ "nan"
  | first, second =>
      match number first, number second with
      | some value, some value' => value = value'
      | _, _ => false

def equalItems : List Yaml → List Yaml → Bool
  | [], [] => true
  | first :: firsts, second :: seconds =>
      (isNan first && isNan second || equal first second) && equalItems firsts seconds
  | _, _ => false

/-- Every entry of the first mapping has an equal one in the second. -/
def equalEntries : List (Yaml × Yaml) → List (Yaml × Yaml) → Bool
  | [], _ => true
  | (key, value) :: entries, others =>
      (others.any fun other => (isNan key && isNan other.1 || equal key other.1) &&
        (isNan value && isNan other.2 || equal value other.2)) &&
        equalEntries entries others

end

/-- The truth of a value in a condition. -/
def truthy : Yaml → Bool
  | .null => false
  | .bool value => value
  | .int value => value ≠ 0
  | .float _ value => value ≠ some 0
  | .text value => value ≠ ""
  | .list items => !items.isEmpty
  | .mapping entries => !entries.isEmpty
  | .other value => value.truthy

def typeName : Yaml → String
  | .null => "NoneType"
  | .bool _ => "bool"
  | .int _ => "int"
  | .float _ _ => "float"
  | .text _ => "str"
  | .list _ => "list"
  | .mapping _ => "dict"
  | .other value => value.typeName

section

variable [Unicode]

/-- The last hexadecimal digits of a number. -/
def hexDigits : ℕ → ℕ → List Char
  | 0, _ => []
  | count + 1, n => hexDigits count (n / 16) ++ [Json.hexDigit (n % 16)]

/-- A character between the quotes of a printed text. -/
def reprChar (mark c : Char) : List Char :=
  if c = mark ∨ c = '\\' then ['\\', c]
  else if c = '\t' then ['\\', 't']
  else if c = '\n' then ['\\', 'n']
  else if c = '\r' then ['\\', 'r']
  else if 0x20 ≤ c.toNat ∧ c.toNat < 0x7f then [c]
  else if 0x7f < c.toNat ∧ Unicode.isPrintable c then [c]
  else if c.toNat < 0x100 then ['\\', 'x'] ++ hexDigits 2 c.toNat
  else if c.toNat < 0x10000 then ['\\', 'u'] ++ hexDigits 4 c.toNat
  else ['\\', 'U'] ++ hexDigits 8 c.toNat

/-- `repr(text)`: in single quotes, unless only double quotes are free. -/
def reprText (text : String) : String :=
  let mark := if '\'' ∈ text.toList ∧ '"' ∉ text.toList then '"' else '\''
  String.ofList (mark :: text.toList.flatMap (reprChar mark) ++ [mark])

/-- `str(texts)` of a list of texts. -/
def reprTexts (texts : List String) : String := "[" ++ ", ".intercalate (texts.map reprText) ++ "]"

mutual

/-- What `repr(value)` returns, when it returns. -/
def quoted : Yaml → String
  | .null => "None"
  | .bool value => if value then "True" else "False"
  | .int value => toString value
  | .float printed _ => printed
  | .text value => reprText value
  | .list items => "[" ++ ", ".intercalate (quotedItems items) ++ "]"
  | .mapping entries => "\x7b" ++ ", ".intercalate (quotedEntries entries) ++ "\x7d"
  | .other value => value.quoted

def quotedItems : List Yaml → List String
  | [] => []
  | item :: items => quoted item :: quotedItems items

def quotedEntries : List (Yaml × Yaml) → List String
  | [] => []
  | (key, value) :: entries => (quoted key ++ ": " ++ quoted value) :: quotedEntries entries

end

/-- What `str(value)` returns, when it returns. -/
def printed : Yaml → String
  | .text value => value
  | .other value => value.printed
  | value => value.quoted

/-- The digits of an integer, with single underscores between them. -/
def readDigits (value : ℕ) : List Char → Option ℕ
  | [] => some value
  | '_' :: c :: rest => do
      let digit ← Unicode.decimal c
      readDigits (10 * value + digit) rest
  | c :: rest => do
      let digit ← Unicode.decimal c
      readDigits (10 * value + digit) rest

/-- An integer begins with a digit. -/
def readNatural : List Char → Option ℕ
  | [] => none
  | c :: rest => do
      let digit ← Unicode.decimal c
      readDigits digit rest

def readInteger : List Char → Option ℤ
  | '+' :: rest => (readNatural rest).map Int.ofNat
  | '-' :: rest => (readNatural rest).map fun value => -Int.ofNat value
  | rest => (readNatural rest).map Int.ofNat

/-- The most digits of an integer that is converted to a text or from one. -/
def maxDigits : ℕ := 4300

/-- White space around an integer: the separators of ASCII are none. -/
def isIntegerSpace (c : Char) : Bool := Text.isSpace c && !(0x1c ≤ c.toNat && c.toNat ≤ 0x1f)

/-- `int(text)`. -/
def intOfText (text : String) : Except Raised ℤ :=
  let digits := ((text.toList.dropWhile isIntegerSpace).reverse.dropWhile isIntegerSpace).reverse
  match readInteger digits with
  | none =>
      .error (.valueError ("invalid literal for int() with base 10: " ++ reprText text))
  | some value =>
      let count := (digits.filter fun c => (Unicode.decimal c).isSome).length
      if count ≤ maxDigits then .ok value
      else .error (.valueError ("Exceeds the limit (" ++ toString maxDigits ++
        " digits) for integer string conversion: value has " ++ toString count ++
        " digits; use sys.set_int_max_str_digits() to increase the limit"))

/-- The integer part of a number, towards zero. -/
def truncate (value : ℚ) : ℤ := if value < 0 then value.ceil else value.floor

/-- `int(value)`. -/
def integer (value : Yaml) : Except Raised ℤ :=
  match value with
  | .bool value => .ok (if value then 1 else 0)
  | .int value => .ok value
  | .float _ (some value) => .ok (truncate value)
  | .float "nan" none => .error (.valueError "cannot convert float NaN to integer")
  | .float _ none => .error ⟨.overflowError, "cannot convert float infinity to integer"⟩
  | .text value => intOfText value
  | .other value => value.integer
  | value =>
      .error ⟨.typeError, "int() argument must be a string, a bytes-like object or a real " ++
      "number, not '" ++ value.typeName ++ "'"⟩

end

section

variable [Interpreter]

/-- The integer has no more digits than can be printed. -/
def FewDigits (value : ℤ) : Prop := (Nat.toDigits 10 value.natAbs).length ≤ maxDigits

instance (value : ℤ) : Decidable (FewDigits value) :=
  inferInstanceAs (Decidable (_ ≤ _))

/-- Whether `repr(value)` returns, with room for some containers within each other. -/
def reprReturns : ℕ → Yaml → Except Raised Unit
  | _, .int value =>
      if FewDigits value then .ok ()
      else .error (.valueError ("Exceeds the limit (" ++ toString maxDigits ++
        " digits) for integer string conversion; use sys.set_int_max_str_digits() to increase " ++
        "the limit"))
  | _, .other value => value.prints
  | limit + 1, .list items => items.forM (reprReturns limit)
  | limit + 1, .mapping entries => entries.forM fun (key, value) => do
      reprReturns limit key
      reprReturns limit value
  | 0, .list _ | 0, .mapping _ =>
      .error ⟨.recursionError,
        "maximum recursion depth exceeded while getting the repr of an object"⟩
  | _, _ => .ok ()

/-- `repr(value)`. -/
def repr (value : Yaml) : Except Raised String := do
  reprReturns printLimit value
  return value.quoted

/-- `str(value)`. -/
def str (value : Yaml) : Except Raised String := do
  reprReturns printLimit value
  return value.printed

/-- A value that can be printed has one printed form. -/
theorem printed_of_str {value : Yaml} {text : String} (prints : value.str = .ok text) :
    value.printed = text := by
  rcases Except.bind_ok_iff.mp prints with ⟨_, _, same⟩
  exact Except.ok.inj same

@[simp]
theorem str_text (text : String) : (Yaml.text text).str = .ok text := rfl

end

/-- `entries.get(key)`, for a key that is a text. -/
def lookup (key : String) (entries : List (Yaml × Yaml)) : Option Yaml :=
  (entries.reverse.find? fun entry =>
    match entry.1 with
    | .text name => name = key
    | _ => false).map Prod.snd

/-- `entries[key]`, for a key that is a text. -/
def item (entries : List (Yaml × Yaml)) (key : String) : Except Raised Yaml :=
  match lookup key entries with
  | some value => .ok value
  | none => .error ⟨.keyError, "'" ++ key ++ "'"⟩

/-- The texts of a list of texts, if it is one. -/
def texts? : List Yaml → Option (List String)
  | [] => some []
  | .text first :: items => (texts? items).map (first :: ·)
  | _ => none

/-- `value.get(key, default)`. -/
def get (value : Yaml) (key : String) (default : Yaml := .null) : Except Raised Yaml :=
  match value with
  | .mapping entries => .ok ((lookup key entries).getD default)
  | value => .error ⟨.attributeError, "'" ++ value.typeName ++ "' object has no attribute 'get'"⟩

/-- `key in value`, for a key that is a text. -/
def contains (value : Yaml) (key : String) : Except Raised Bool :=
  match value with
  | .mapping entries => .ok (lookup key entries).isSome
  | .list items => .ok (items.any (equal (.text key)))
  | .text value => .ok (decide (Text.Contains value key))
  | .other value => value.contains key
  | value => .error ⟨.typeError, "argument of type '" ++ value.typeName ++ "' is not iterable"⟩

/-- A value as an element of a set. -/
def hashable : Yaml → Except Raised Yaml
  | .list _ => .error ⟨.typeError, "unhashable type: 'list'"⟩
  | .mapping _ => .error ⟨.typeError, "unhashable type: 'dict'"⟩
  | value => .ok value

/-- The elements of `set(value)`, some of them more than once. -/
def elements (value : Yaml) : Except Raised (List Yaml) :=
  match value with
  | .mapping entries => .ok (entries.map Prod.fst)
  | .list items => items.mapM hashable
  | .text value => .ok (value.toList.map fun c => .text c.toString)
  | .other value => value.elements.map fun found => found.map fun element =>
      match element with
      | some name => .text name
      | none => .null
  | value => .error ⟨.typeError, "'" ++ value.typeName ++ "' object is not iterable"⟩

/-- `value or {}`. -/
def orEmpty (value : Yaml) : Yaml := if value.truthy then value else .mapping []

/-- Every element is one of the texts. -/
def elementsWithin (found : List Yaml) (texts : List String) : Bool :=
  found.all fun element => texts.any fun text => equal element (.text text)

/-- `set(found) == set(texts)`. -/
def sameElements (found : List Yaml) (texts : List String) : Bool :=
  elementsWithin found texts && texts.all fun text => found.any (equal (.text text))

end Yaml

end FivegLab
