import FivegLab.Json

/-!
# Decoding JSON

`json.loads`: how the decoder goes through a text, where it stops, and with
which exception.  The interpreter limits the digits of an integer and the
nesting of containers; what the decoder meets of both is recorded.
-/

namespace FivegLab

namespace JsonDecoder

/-- What the interpreter has a limit for. -/
inductive Met
  | integer (digits : ℕ)
  | container (kind : String) (depth : ℕ)
  deriving DecidableEq, Repr

/-- The limits of the interpreter. -/
structure Limits where
  digits : ℕ
  depth : ℕ
  deriving DecidableEq, Repr

/-- Is it within the limits? -/
def Met.Within (limits : Limits) : Met → Prop
  | .integer digits => digits ≤ limits.digits
  | .container _ depth => depth ≤ limits.depth

instance (limits : Limits) (met : Met) : Decidable (met.Within limits) :=
  match met with
  | .integer _ => inferInstanceAs (Decidable (_ ≤ _))
  | .container _ _ => inferInstanceAs (Decidable (_ ≤ _))

/-- Why the decoder stops: an error at the beginning of the rest, or a limit. -/
inductive Failure
  | malformed (message : String) (rest : List Char)
  | limit (met : Met)
  deriving DecidableEq, Repr

/-- A part of the decoding: what was met, and how it ended. -/
@[ext]
structure Decoding (α : Type) where
  met : List Met
  outcome : Except Failure α

namespace Decoding

variable {α β : Type}

instance : Monad Decoding where
  pure value := ⟨[], .ok value⟩
  bind first next :=
    match first.outcome with
    | .error failure => ⟨first.met, .error failure⟩
    | .ok value => ⟨first.met ++ (next value).met, (next value).outcome⟩

/-- `raise JSONDecodeError(message, document, position)`. -/
def fail (message : String) (rest : List Char) : Decoding α :=
  ⟨[], .error (.malformed message rest)⟩

def meet (limits : Limits) (met : Met) : Decoding Unit :=
  if met.Within limits then ⟨[met], .ok ()⟩ else ⟨[met], .error (.limit met)⟩

theorem outcome_pure (value : α) : (pure value : Decoding α).outcome = .ok value := rfl

theorem outcome_bind_ok_iff {first : Decoding α} {next : α → Decoding β} {result : β} :
    (first >>= next).outcome = .ok result ↔
      ∃ value, first.outcome = .ok value ∧ (next value).outcome = .ok result := by
  simp only [bind]
  cases first.outcome with
  | error failure => simp
  | ok value => simp

theorem bind_congr {first : Decoding α} {next other : α → Decoding β}
    (same : ∀ value, first.outcome = .ok value → next value = other value) :
    first >>= next = first >>= other := by
  simp only [bind]
  cases ended : first.outcome with
  | error failure => rfl
  | ok value => simp only [same value ended]

/-- The decoding ends at a limit exactly when something is beyond it. -/
def Limited (limits : Limits) (part : Decoding α) : Prop :=
  (∃ met, part.outcome = .error (.limit met)) ↔ ∃ met ∈ part.met, ¬met.Within limits

variable {limits : Limits}

theorem limited_pure (value : α) : (pure value : Decoding α).Limited limits := by
  simp [Limited, pure]

theorem limited_fail (message : String) (rest : List Char) :
    (fail message rest : Decoding α).Limited limits := by
  simp [Limited, fail]

theorem limited_meet (met : Met) : (meet limits met).Limited limits := by
  rw [Limited, meet]
  split
  case isTrue within => simp [within]
  case isFalse beyond => simp [beyond]

theorem Limited.bind {first : Decoding α} {next : α → Decoding β} (limited : first.Limited limits)
    (then_limited : ∀ value, (next value).Limited limits) : (first >>= next).Limited limits := by
  rw [Limited] at limited
  simp only [Limited, Bind.bind]
  cases ended : first.outcome with
  | error failure => simpa [ended] using limited
  | ok value =>
      have within : ¬∃ met ∈ first.met, ¬met.Within limits := by
        rw [← limited, ended]
        simp
      have later := then_limited value
      rw [Limited] at later
      rw [later]
      constructor
      · rintro ⟨met, member, beyond⟩
        exact ⟨met, List.mem_append_right _ member, beyond⟩
      · rintro ⟨met, member, beyond⟩
        rcases List.mem_append.mp member with early | late
        · exact absurd ⟨met, early, beyond⟩ within
        · exact ⟨met, late, beyond⟩

end Decoding

open Decoding

def isSpace (c : Char) : Bool := c = ' ' || c = '\t' || c = '\n' || c = '\r'

/-- The text after white space. -/
def skipSpace (text : List Char) : List Char := text.dropWhile isSpace

/-- The value of a hexadecimal digit. -/
def hexValue (c : Char) : Option ℕ :=
  if '0' ≤ c ∧ c ≤ '9' then some (c.toNat - 48)
  else if 'a' ≤ c ∧ c ≤ 'f' then some (c.toNat - 87)
  else if 'A' ≤ c ∧ c ≤ 'F' then some (c.toNat - 55)
  else none

/-- The four digits of a UTF-16 unit, which something has to follow. -/
def unit : List Char → Option (ℕ × List Char)
  | first :: second :: third :: fourth :: next :: rest => do
      let first ← hexValue first
      let second ← hexValue second
      let third ← hexValue third
      let fourth ← hexValue fourth
      return (((first * 16 + second) * 16 + third) * 16 + fourth, next :: rest)
  | _ => none

/-- The character of a unit.  A surrogate that is alone is none: it is read as U+FFFD. -/
def unitChar (value : ℕ) : Char :=
  if 0xd800 ≤ value ∧ value < 0xe000 then Char.ofNat 0xfffd else Char.ofNat value

/-- The second half of a pair of surrogates. -/
def lowSurrogate : List Char → Option (ℕ × List Char)
  | '\\' :: 'u' :: text =>
      match unit text with
      | some (low, rest) => if 0xdc00 ≤ low ∧ low < 0xe000 then some (low, rest) else none
      | none => none
  | _ => none

/-- The character of a `\uXXXX` escape, or of two that are a pair. -/
def unicodeEscape (text : List Char) : Option (Char × List Char) :=
  match unit text with
  | none => none
  | some (high, rest) =>
      if 0xd800 ≤ high ∧ high < 0xdc00 then
        match lowSurrogate rest with
        | some (low, rest) =>
            some (Char.ofNat (0x10000 + (high - 0xd800) * 0x400 + (low - 0xdc00)), rest)
        | none => some (unitChar high, rest)
      else some (unitChar high, rest)

/-- The character that a letter after a backslash stands for. -/
def simpleEscape (c : Char) : Option Char :=
  if c = '"' ∨ c = '\\' ∨ c = '/' then some c
  else if c = 'b' then some (Char.ofNat 8)
  else if c = 'f' then some (Char.ofNat 12)
  else if c = 'n' then some '\n'
  else if c = 'r' then some '\r'
  else if c = 't' then some '\t'
  else none

/-- An escape, at its backslash; `start` is where the string begins. -/
def escape (start : List Char) : List Char → Decoding (Char × List Char)
  | _ :: 'u' :: rest =>
      match unicodeEscape rest with
      | some read => return read
      | none => fail "Invalid \\uXXXX escape" ('u' :: rest)
  | backslash :: c :: rest =>
      match simpleEscape c with
      | some c => return (c, rest)
      | none => fail "Invalid \\escape" (backslash :: c :: rest)
  | _ => fail "Unterminated string starting at" start

/-- The characters of a string up to its closing quote, and the text after it. -/
def stringRest (start : List Char) : ℕ → List Char → Decoding (List Char × List Char)
  | 0, _ => fail "Unterminated string starting at" start
  | _ + 1, [] => fail "Unterminated string starting at" start
  | fuel + 1, c :: rest =>
      if c = '"' then return ([], rest)
      else if c = '\\' then do
        let (first, rest) ← escape start (c :: rest)
        let (chars, rest) ← stringRest start fuel rest
        return (first :: chars, rest)
      else if c.toNat ≤ 0x1f then fail "Invalid control character at" (c :: rest)
      else do
        let (chars, rest) ← stringRest start fuel rest
        return (c :: chars, rest)

/-- A string, at its opening quote. -/
def scanString (text : List Char) : Decoding (String × List Char) := do
  let (chars, rest) ← stringRest text text.length text.tail
  return (String.ofList chars, rest)

def isDigit (c : Char) : Bool := '0' ≤ c && c ≤ '9'

/-- The digits of the integer part: a zero stands alone. -/
def wholeDigits : List Char → List Char
  | '0' :: _ => ['0']
  | text => text.takeWhile isDigit

/-- A point with digits after it. -/
def fractionPart : List Char → List Char
  | '.' :: rest => if rest.takeWhile isDigit = [] then [] else '.' :: rest.takeWhile isDigit
  | _ => []

/-- The sign of an exponent, and its digits. -/
def exponentDigits : List Char → List Char
  | '+' :: rest => if rest.takeWhile isDigit = [] then [] else '+' :: rest.takeWhile isDigit
  | '-' :: rest => if rest.takeWhile isDigit = [] then [] else '-' :: rest.takeWhile isDigit
  | text => text.takeWhile isDigit

/-- An exponent, if it has digits. -/
def exponentPart : List Char → List Char
  | c :: rest =>
      if c = 'e' ∨ c = 'E' then if exponentDigits rest = [] then [] else c :: exponentDigits rest
      else []
  | [] => []

/-- The sign of a number, and the text after it. -/
def splitSign : List Char → List Char × List Char
  | '-' :: rest => (['-'], rest)
  | text => ([], text)

/-- `int(digits)`, for decimal digits. -/
def decimalValue (digits : List Char) : ℕ :=
  digits.foldl (fun value c => 10 * value + (c.toNat - 48)) 0

variable (printFloat : String → String) (limits : Limits)

/-- A number; `printFloat` prints the float that a literal denotes. -/
def scanNumber (text : List Char) : Decoding (Json × List Char) :=
  let (sign, unsigned) := splitSign text
  let whole := wholeDigits unsigned
  let afterWhole := unsigned.drop whole.length
  let fraction := fractionPart afterWhole
  let afterFraction := afterWhole.drop fraction.length
  let exponent := exponentPart afterFraction
  if whole = [] then fail "Expecting value" text
  else if fraction = [] ∧ exponent = [] then do
    meet limits (.integer whole.length)
    return (.int (if sign = [] then decimalValue whole else -decimalValue whole), afterWhole)
  else
    return (.float (printFloat (String.ofList (sign ++ whole ++ fraction ++ exponent))),
      afterFraction.drop exponent.length)

/-- The words that are values. -/
def constants : List (String × Json) :=
  [("null", .null), ("true", .bool true), ("false", .bool false), ("NaN", .float "NaN"),
    ("Infinity", .float "Infinity"), ("-Infinity", .float "-Infinity")]

/-- The word at the beginning of a text. -/
def scanConstant (text : List Char) : Option (Json × List Char) :=
  (constants.find? fun constant => constant.1.toList <+: text).map fun constant =>
    (constant.2, text.drop constant.1.toList.length)

/-- `mapping[key] = value`: a key keeps its place. -/
def insertField (fields : List (String × Json)) (field : String × Json) : List (String × Json) :=
  if ∃ other ∈ fields, other.1 = field.1 then
    fields.map fun other => if other.1 = field.1 then field else other
  else fields ++ [field]

mutual

/-- A value, at its first character.  The fuel bounds the steps, of which each
takes a character of the text. -/
def scanValue : ℕ → ℕ → List Char → Decoding (Json × List Char)
  | 0, _, text => fail "Expecting value" text
  | _ + 1, _, [] => fail "Expecting value" []
  | fuel + 1, depth, c :: rest =>
      if c = '"' then do
        let (value, rest) ← scanString (c :: rest)
        return (.string value, rest)
      else if c = '\x7b' then do
        meet limits (.container "object" (depth + 1))
        if (skipSpace rest).head? = some '\x7d' then return (.object [], (skipSpace rest).tail)
        else do
          let (fields, rest) ← scanMembers fuel (depth + 1) (skipSpace rest)
          return (.object (fields.foldl insertField []), rest)
      else if c = '[' then do
        meet limits (.container "array" (depth + 1))
        if (skipSpace rest).head? = some ']' then return (.array [], (skipSpace rest).tail)
        else do
          let (items, rest) ← scanItems fuel (depth + 1) (skipSpace rest)
          return (.array items, rest)
      else
        match scanConstant (c :: rest) with
        | some read => return read
        | none => scanNumber printFloat limits (c :: rest)

/-- The items of a list, at the first one. -/
def scanItems : ℕ → ℕ → List Char → Decoding (List Json × List Char)
  | 0, _, text => fail "Expecting value" text
  | fuel + 1, depth, text => do
      let (item, rest) ← scanValue fuel depth text
      match skipSpace rest with
      | ']' :: rest => return ([item], rest)
      | ',' :: rest => do
          let (items, rest) ← scanItems fuel depth (skipSpace rest)
          return (item :: items, rest)
      | rest => fail "Expecting ',' delimiter" rest

/-- The fields of a mapping, at the first key. -/
def scanMembers : ℕ → ℕ → List Char → Decoding (List (String × Json) × List Char)
  | 0, _, text => fail "Expecting value" text
  | fuel + 1, depth, text =>
      if text.head? = some '"' then do
        let (key, rest) ← scanString text
        match skipSpace rest with
        | ':' :: rest => do
            let (value, rest) ← scanValue fuel depth (skipSpace rest)
            match skipSpace rest with
            | '\x7d' :: rest => return ([(key, value)], rest)
            | ',' :: rest => do
                let (fields, rest) ← scanMembers fuel depth (skipSpace rest)
                return ((key, value) :: fields, rest)
            | rest => fail "Expecting ',' delimiter" rest
        | rest => fail "Expecting ':' delimiter" rest
      else fail "Expecting property name enclosed in double quotes" text

end

/-- `json.loads(text)`, with what is met on the way. -/
def decode (text : List Char) : Decoding Json :=
  if text.head? = some (Char.ofNat 0xfeff) then
    fail "Unexpected UTF-8 BOM (decode using utf-8-sig)" text
  else do
    let (value, rest) ← scanValue printFloat limits (2 * text.length + 1) 0 (skipSpace text)
    if skipSpace rest = [] then return value
    else fail "Extra data" (skipSpace rest)

/-- The line and the column of a position. -/
def lineColumn (before : List Char) : String :=
  "line " ++ toString (before.count '\n' + 1) ++ " column " ++
    toString ((before.reverse.takeWhile fun c => c ≠ '\n').length + 1)

/-- The exception of a failure. -/
def Failure.raised (limits : Limits) (document : List Char) : Failure → Raised
  | .malformed message rest =>
      ⟨.jsonDecodeError, message ++ ": " ++
        lineColumn (document.take (document.length - rest.length)) ++ " (char " ++
        toString (document.length - rest.length) ++ ")"⟩
  | .limit (.integer digits) =>
      ⟨.valueError, "Exceeds the limit (" ++ toString limits.digits ++
        " digits) for integer string conversion: value has " ++ toString digits ++
        " digits; use sys.set_int_max_str_digits() to increase the limit"⟩
  | .limit (.container kind _) =>
      ⟨.recursionError, "maximum recursion depth exceeded while decoding a JSON " ++ kind ++
        " from a unicode string"⟩

/-- `json.loads(text)`. -/
def loads (text : String) : Except Raised Json :=
  (decode printFloat limits text.toList).outcome.mapError (Failure.raised limits text.toList)

section Limited

variable {printFloat limits}

theorem limited_stringRest (start : List Char) (fuel : ℕ) (text : List Char) :
    (stringRest start fuel text).Limited limits := by
  have escaped : ∀ text, (escape start text).Limited limits := by
    intro text
    unfold escape
    split
    · split
      · exact limited_pure _
      · exact limited_fail _ _
    · split
      · exact limited_pure _
      · exact limited_fail _ _
    · exact limited_fail _ _
  induction fuel generalizing text with
  | zero => exact limited_fail _ _
  | succ fuel ih =>
      cases text with
      | nil => exact limited_fail _ _
      | cons c rest =>
          rw [stringRest]
          split
          · exact limited_pure _
          · split
            · exact (escaped _).bind fun _ => (ih _).bind fun _ => limited_pure _
            · split
              · exact limited_fail _ _
              · exact (ih _).bind fun _ => limited_pure _

theorem limited_scanString (text : List Char) : (scanString text).Limited limits :=
  (limited_stringRest _ _ _).bind fun _ => limited_pure _

theorem limited_scanNumber (text : List Char) :
    (scanNumber printFloat limits text).Limited limits := by
  rw [scanNumber]
  dsimp only
  split
  · exact limited_fail _ _
  · split
    · exact (limited_meet _).bind fun _ => limited_pure _
    · exact limited_pure _

theorem limited_scanValue (fuel depth : ℕ) (text : List Char) :
    (scanValue printFloat limits fuel depth text).Limited limits ∧
    (scanItems printFloat limits fuel depth text).Limited limits ∧
    (scanMembers printFloat limits fuel depth text).Limited limits := by
  induction fuel generalizing depth text with
  | zero => exact ⟨limited_fail _ _, limited_fail _ _, limited_fail _ _⟩
  | succ fuel ih =>
      refine ⟨?_, ?_, ?_⟩
      · cases text with
        | nil => exact limited_fail _ _
        | cons c rest =>
            rw [scanValue]
            split
            · exact (limited_scanString _).bind fun _ => limited_pure _
            · split
              · refine (limited_meet _).bind fun _ => ?_
                split
                · exact limited_pure _
                · exact (ih _ _).2.2.bind fun _ => limited_pure _
              · split
                · refine (limited_meet _).bind fun _ => ?_
                  split
                  · exact limited_pure _
                  · exact (ih _ _).2.1.bind fun _ => limited_pure _
                · split
                  · exact limited_pure _
                  · exact limited_scanNumber _
      · rw [scanItems]
        refine (ih _ _).1.bind fun _ => ?_
        split
        split
        · exact limited_pure _
        · exact (ih _ _).2.1.bind fun _ => limited_pure _
        · exact limited_fail _ _
      · rw [scanMembers]
        split
        · refine (limited_scanString _).bind fun _ => ?_
          split
          split
          · refine (ih _ _).1.bind fun _ => ?_
            split
            split
            · exact limited_pure _
            · exact (ih _ _).2.2.bind fun _ => limited_pure _
            · exact limited_fail _ _
          · exact limited_fail _ _
        · exact limited_fail _ _

/-- The decoder stops at a limit exactly when the text goes beyond it. -/
theorem limited_decode (text : List Char) : (decode printFloat limits text).Limited limits := by
  rw [decode]
  split
  · exact limited_fail _ _
  · refine (limited_scanValue _ _ _).1.bind fun _ => ?_
    split
    split
    · exact limited_pure _
    · exact limited_fail _ _

end Limited

/-- What a part leaves of a text is shorter than a bound. -/
def Decoding.Consumes {α : Type} (part : Decoding (α × List Char)) (size : ℕ) : Prop :=
  ∀ value rest, part.outcome = .ok (value, rest) → rest.length < size

section Fuel

variable {α β : Type}

theorem consumes_pure {value : α} {rest : List Char} {size : ℕ} (shorter : rest.length < size) :
    (pure (value, rest) : Decoding (α × List Char)).Consumes size := by
  rintro _ _ ⟨⟩
  exact shorter

theorem consumes_fail (message : String) (rest : List Char) (size : ℕ) :
    (fail message rest : Decoding (α × List Char)).Consumes size := by
  rintro _ _ ⟨⟩

theorem consumes_bind {first : Decoding β} {next : β → Decoding (α × List Char)} {size : ℕ}
    (then_consumes : ∀ value, first.outcome = .ok value → (next value).Consumes size) :
    (first >>= next).Consumes size := by
  intro value rest ended
  rcases outcome_bind_ok_iff.mp ended with ⟨middle, early, late⟩
  exact then_consumes middle early value rest late

theorem length_skipSpace (text : List Char) : (skipSpace text).length ≤ text.length :=
  (List.dropWhile_suffix _).length_le

theorem unit_shorter {text rest : List Char} {value : ℕ} (read : unit text = some (value, rest)) :
    rest.length < text.length := by
  unfold unit at read
  split at read
  · simp only [Option.bind_eq_bind, Option.bind_eq_some_iff, Option.pure_def, Option.some.injEq,
      Prod.mk.injEq] at read
    rcases read with ⟨_, _, _, _, _, _, _, _, _, rfl⟩
    simp only [List.length_cons]
    omega
  · exact absurd read (by simp)

theorem lowSurrogate_shorter {text rest : List Char} {value : ℕ}
    (read : lowSurrogate text = some (value, rest)) : rest.length < text.length := by
  unfold lowSurrogate at read
  split at read
  · split at read
    case h_1 found =>
      have := unit_shorter found
      simp only [Option.ite_none_right_eq_some, Option.some.injEq, Prod.mk.injEq] at read
      rcases read with ⟨_, _, rfl⟩
      simp only [List.length_cons]
      omega
    case h_2 => exact absurd read (by simp)
  · exact absurd read (by simp)

theorem unicodeEscape_shorter {text rest : List Char} {value : Char}
    (read : unicodeEscape text = some (value, rest)) : rest.length < text.length := by
  unfold unicodeEscape at read
  split at read
  case h_1 => exact absurd read (by simp)
  case h_2 found =>
    have first := unit_shorter found
    split at read
    · split at read
      case h_1 paired =>
        have second := lowSurrogate_shorter paired
        simp only [Option.some.injEq, Prod.mk.injEq] at read
        rcases read with ⟨_, rfl⟩
        omega
      case h_2 =>
        simp only [Option.some.injEq, Prod.mk.injEq] at read
        rcases read with ⟨_, rfl⟩
        exact first
    · simp only [Option.some.injEq, Prod.mk.injEq] at read
      rcases read with ⟨_, rfl⟩
      exact first

theorem consumes_escape (start text : List Char) : (escape start text).Consumes text.length := by
  unfold escape
  split
  · split
    case h_1 read found =>
      refine consumes_pure ?_
      have := unicodeEscape_shorter found
      simp only [List.length_cons]
      omega
    case h_2 => exact consumes_fail _ _ _
  · split
    · exact consumes_pure (by simp only [List.length_cons]; omega)
    · exact consumes_fail _ _ _
  · exact consumes_fail _ _ _

theorem consumes_stringRest (start : List Char) (fuel : ℕ) (text : List Char) :
    (stringRest start fuel text).Consumes text.length := by
  induction fuel generalizing text with
  | zero => exact consumes_fail _ _ _
  | succ fuel ih =>
      cases text with
      | nil => exact consumes_fail _ _ _
      | cons c rest =>
          rw [stringRest]
          split
          · exact consumes_pure (by simp)
          · split
            · refine consumes_bind fun escaped ended => ?_
              have shorter := consumes_escape start _ _ _ ended
              refine consumes_bind fun read ended => consumes_pure ?_
              have := ih _ _ _ ended
              omega
            · split
              · exact consumes_fail _ _ _
              · refine consumes_bind fun read ended => consumes_pure ?_
                have := ih _ _ _ ended
                simp only [List.length_cons]
                omega

theorem consumes_scanString {text : List Char} (some : text ≠ []) :
    (scanString text).Consumes text.length := by
  refine consumes_bind fun read ended => consumes_pure ?_
  have shorter := consumes_stringRest text _ _ _ _ ended
  have := List.length_pos_iff.mpr some
  rw [List.length_tail] at shorter
  omega

theorem scanConstant_shorter {text rest : List Char} {value : Json} (some : text ≠ [])
    (read : scanConstant text = Option.some (value, rest)) : rest.length < text.length := by
  rw [scanConstant, Option.map_eq_some_iff] at read
  rcases read with ⟨constant, found, read⟩
  rw [Prod.mk.injEq] at read
  rcases read with ⟨_, rfl⟩
  have nonempty : 0 < constant.1.toList.length := by
    have member := List.mem_of_find?_eq_some found
    simp only [constants, List.mem_cons, List.not_mem_nil, or_false] at member
    rcases member with rfl | rfl | rfl | rfl | rfl | rfl <;> simp
  have := List.length_pos_iff.mpr some
  rw [List.length_drop]
  omega

theorem length_splitSign (text : List Char) : (splitSign text).2.length ≤ text.length := by
  unfold splitSign
  split
  · simp
  · exact le_rfl

theorem consumes_scanNumber (text : List Char) :
    (scanNumber printFloat limits text).Consumes text.length := by
  rw [scanNumber]
  dsimp only
  split
  case isTrue => exact consumes_fail _ _ _
  case isFalse some =>
    have unsigned := length_splitSign text
    have whole := List.length_pos_iff.mpr some
    have nonempty : 0 < (splitSign text).2.length := by
      rw [List.length_pos_iff]
      intro empty
      rw [empty] at some
      exact some rfl
    split
    · refine consumes_bind fun _ _ => consumes_pure ?_
      rw [List.length_drop]
      omega
    · refine consumes_pure ?_
      rw [List.length_drop, List.length_drop, List.length_drop]
      omega

theorem consumes_scanValue (fuel depth : ℕ) (text : List Char) :
    (scanValue printFloat limits fuel depth text).Consumes text.length ∧
    (scanItems printFloat limits fuel depth text).Consumes text.length ∧
    (scanMembers printFloat limits fuel depth text).Consumes text.length := by
  induction fuel generalizing depth text with
  | zero => exact ⟨consumes_fail _ _ _, consumes_fail _ _ _, consumes_fail _ _ _⟩
  | succ fuel ih =>
      refine ⟨?_, ?_, ?_⟩
      · cases text with
        | nil => exact consumes_fail _ _ _
        | cons c rest =>
            have spaced := length_skipSpace rest
            have closed : (skipSpace rest).tail.length < (c :: rest).length := by
              rw [List.length_tail, List.length_cons]
              omega
            rw [scanValue]
            split
            · refine consumes_bind fun read ended => consumes_pure ?_
              exact consumes_scanString (List.cons_ne_nil _ _) _ _ ended
            · split
              · refine consumes_bind fun _ _ => ?_
                split
                · exact consumes_pure closed
                · refine consumes_bind fun read ended => consumes_pure ?_
                  have := (ih _ _).2.2 _ _ ended
                  rw [List.length_cons]
                  omega
              · split
                · refine consumes_bind fun _ _ => ?_
                  split
                  · exact consumes_pure closed
                  · refine consumes_bind fun read ended => consumes_pure ?_
                    have := (ih _ _).2.1 _ _ ended
                    rw [List.length_cons]
                    omega
                · split
                  case h_1 found =>
                    exact consumes_pure (scanConstant_shorter (List.cons_ne_nil _ _) found)
                  case h_2 => exact consumes_scanNumber _ _ _
      · rw [scanItems]
        refine consumes_bind fun item ended => ?_
        have shorter := (ih _ _).1 _ _ ended
        have spaced := length_skipSpace item.2
        dsimp only
        split
        case h_1 rest found =>
          rw [found, List.length_cons] at spaced
          exact consumes_pure (by omega)
        case h_2 rest found =>
          rw [found, List.length_cons] at spaced
          refine consumes_bind fun read ended => consumes_pure ?_
          have := (ih _ _).2.1 _ _ ended
          have := length_skipSpace rest
          omega
        case h_3 => exact consumes_fail _ _ _
      · rw [scanMembers]
        split
        case isFalse => exact consumes_fail _ _ _
        case isTrue quoted =>
          refine consumes_bind fun key ended => ?_
          have some : text ≠ [] := by
            rintro rfl
            simp at quoted
          have keyed := consumes_scanString some _ _ ended
          have spaced := length_skipSpace key.2
          dsimp only
          split
          case h_2 => exact consumes_fail _ _ _
          case h_1 rest found =>
            rw [found, List.length_cons] at spaced
            refine consumes_bind fun value ended => ?_
            have shorter := (ih _ _).1 _ _ ended
            have valued := length_skipSpace rest
            have spacedAfter := length_skipSpace value.2
            split
            case h_1 rest' found =>
              rw [found, List.length_cons] at spacedAfter
              exact consumes_pure (by omega)
            case h_2 rest' found =>
              rw [found, List.length_cons] at spacedAfter
              refine consumes_bind fun read ended => consumes_pure ?_
              have := (ih _ _).2.2 _ _ ended
              have := length_skipSpace rest'
              omega
            case h_3 => exact consumes_fail _ _ _

/-- The decoder never runs out of fuel: more of it makes no difference. -/
theorem scanValue_fuel (fuel other depth : ℕ) (text : List Char) :
    (2 * text.length < fuel → 2 * text.length < other →
      scanValue printFloat limits fuel depth text = scanValue printFloat limits other depth text) ∧
    (2 * text.length + 1 < fuel → 2 * text.length + 1 < other →
      scanItems printFloat limits fuel depth text = scanItems printFloat limits other depth text ∧
      scanMembers printFloat limits fuel depth text =
        scanMembers printFloat limits other depth text) := by
  induction fuel generalizing other depth text with
  | zero => exact ⟨fun impossible => by omega, fun impossible => by omega⟩
  | succ fuel ih =>
      refine ⟨fun enough enough_other => ?_, fun enough enough_other => ⟨?_, ?_⟩⟩
      all_goals obtain ⟨other, rfl⟩ := Nat.exists_eq_add_one_of_ne_zero (by omega : other ≠ 0)
      · cases text with
        | nil => rfl
        | cons c rest =>
            have spaced := length_skipSpace rest
            rw [List.length_cons] at enough enough_other
            have inner := (ih other (depth + 1) (skipSpace rest)).2 (by omega) (by omega)
            rw [scanValue, scanValue, inner.1, inner.2]
      · rw [scanItems, scanItems, (ih other depth text).1 (by omega) (by omega)]
        refine bind_congr fun item ended => ?_
        have shorter := (consumes_scanValue printFloat limits _ _ _).1 _ _ ended
        have spaced := length_skipSpace item.2
        dsimp only
        split
        case h_1 => rfl
        case h_2 rest found =>
          rw [found, List.length_cons] at spaced
          have := length_skipSpace rest
          rw [((ih other depth (skipSpace rest)).2 (by omega) (by omega)).1]
        case h_3 => rfl
      · rw [scanMembers, scanMembers]
        split
        case isFalse => rfl
        case isTrue quoted =>
          refine bind_congr fun key ended => ?_
          have some : text ≠ [] := by
            rintro rfl
            simp at quoted
          have keyed := consumes_scanString some _ _ ended
          have spaced := length_skipSpace key.2
          dsimp only
          split
          case h_2 => rfl
          case h_1 rest found =>
            rw [found, List.length_cons] at spaced
            have valued := length_skipSpace rest
            rw [(ih other depth (skipSpace rest)).1 (by omega) (by omega)]
            refine bind_congr fun value ended => ?_
            have shorter := (consumes_scanValue printFloat limits _ _ _).1 _ _ ended
            have spacedAfter := length_skipSpace value.2
            split
            case h_1 => rfl
            case h_2 rest' found =>
              rw [found, List.length_cons] at spacedAfter
              have := length_skipSpace rest'
              rw [((ih other depth (skipSpace rest')).2 (by omega) (by omega)).2]
            case h_3 => rfl

theorem decode_fuel {fuel : ℕ} {text : List Char} (enough : 2 * text.length < fuel) :
    decode printFloat limits text =
      if text.head? = some (Char.ofNat 0xfeff) then
        fail "Unexpected UTF-8 BOM (decode using utf-8-sig)" text
      else (do
        let (value, rest) ← scanValue printFloat limits fuel 0 (skipSpace text)
        if skipSpace rest = [] then return value
        else fail "Extra data" (skipSpace rest)) := by
  have spaced := length_skipSpace text
  rw [decode, (scanValue_fuel printFloat limits _ fuel 0 (skipSpace text)).1 (by omega) (by omega)]

end Fuel

end JsonDecoder

/-- `json.loads`, within the limits of an interpreter. -/
abbrev decoder (printFloat : String → String) (limits : JsonDecoder.Limits) : JsonLibrary where
  loads := JsonDecoder.loads printFloat limits

end FivegLab
