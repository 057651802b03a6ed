import Mathlib.Data.List.Basic

/-!
# Interpolation

Texts in which `$NAME` and `${...}` stand for values of an environment, and `$$`
for a dollar.  A scan from left to right takes a text apart; a text in which every
dollar is doubled has no expressions, and interpolation gives back the original.
-/

namespace FivegLab.Interpolation

/-- A part of a text. -/
inductive Part
  | plain (c : Char)
  /-- A dollar that is written twice. -/
  | dollar
  | named (name : List Char)
  | braced (expression : List Char)
  deriving DecidableEq, Repr

/-- What the expressions stand for.  A braced expression may have no value. -/
structure Environment where
  value : List Char → List Char
  expand : List Char → Option (List Char)

def Part.interpolate (environment : Environment) : Part → Option (List Char)
  | plain c => some [c]
  | dollar => some ['$']
  | named name => some (environment.value name)
  | braced expression => environment.expand expression

/-- What the scan is reading. -/
inductive Scanner
  | text
  /-- What follows a dollar. -/
  | dollar
  | name (taken : List Char)
  /-- An expression in braces, and how many are open in it. -/
  | braces (depth : ℕ) (taken : List Char)
  deriving DecidableEq, Repr

def isNameStart (c : Char) : Bool := c.isAlpha || c = '_'

def isNameChar (c : Char) : Bool := c.isAlphanum || c = '_'

/-- The parts of a text, unless a dollar begins no expression. -/
def parts : Scanner → List Char → Option (List Part)
  | .text, [] => some []
  | .text, c :: rest =>
      if c = '$' then parts .dollar rest else (parts .text rest).map (.plain c :: ·)
  | .dollar, [] => none
  | .dollar, c :: rest =>
      if c = '$' then (parts .text rest).map (.dollar :: ·)
      else if c = '\x7b' then parts (.braces 0 []) rest
      else if isNameStart c then parts (.name [c]) rest
      else none
  | .name taken, [] => some [.named taken]
  | .name taken, c :: rest =>
      if isNameChar c then parts (.name (taken ++ [c])) rest
      else if c = '$' then (parts .dollar rest).map (.named taken :: ·)
      else (parts .text rest).map fun found => .named taken :: .plain c :: found
  | .braces _ _, [] => none
  | .braces depth taken, c :: rest =>
      if c = '\x7d' then
        match depth with
        | 0 => (parts .text rest).map (.braced taken :: ·)
        | depth + 1 => parts (.braces depth (taken ++ [c])) rest
      else if c = '\x7b' then parts (.braces (depth + 1) (taken ++ [c])) rest
      else parts (.braces depth (taken ++ [c])) rest

/-- The text with its expressions expanded. -/
def interpolate (environment : Environment) (text : List Char) : Option (List Char) := do
  let found ← parts .text text
  let values ← found.mapM (Part.interpolate environment)
  return values.flatten

/-- The text with every dollar doubled. -/
def double (text : List Char) : List Char :=
  text.flatMap fun c => if c = '$' then ['$', '$'] else [c]

/-- The part that a character is when its dollars are doubled. -/
def Part.ofChar (c : Char) : Part := if c = '$' then .dollar else .plain c

theorem interpolate_ofChar (environment : Environment) (c : Char) :
    (Part.ofChar c).interpolate environment = some [c] := by
  rw [Part.ofChar]
  split
  case isTrue dollar => rw [dollar]; rfl
  case isFalse => rfl

/-- A doubled text has no expressions, whatever follows it. -/
theorem parts_double_append (text rest : List Char) :
    parts .text (double text ++ rest) = (parts .text rest).map (text.map Part.ofChar ++ ·) := by
  induction text with
  | nil => simp [double]
  | cons c text ih =>
      rw [double, List.flatMap_cons, List.append_assoc, ← double, List.map_cons, Part.ofChar]
      split
      case isTrue dollar =>
        simp only [List.cons_append, List.nil_append, parts, if_true, ih, Option.map_map]
        rfl
      case isFalse other =>
        simp only [List.cons_append, List.nil_append, parts, if_neg other, ih, Option.map_map]
        rfl

theorem mapM_ofChar (environment : Environment) (text : List Char) :
    (text.map Part.ofChar).mapM (Part.interpolate environment) = some (text.map fun c => [c]) := by
  induction text with
  | nil => rfl
  | cons c text ih =>
      rw [List.map_cons, List.mapM_cons, interpolate_ofChar, ih]
      rfl

/-- Nothing is expanded in a doubled text. -/
theorem parts_double (text : List Char) :
    parts .text (double text) = some (text.map Part.ofChar) := by
  simpa [parts] using parts_double_append text []

/-- Doubling the dollars of a text is undone by interpolation in any environment. -/
theorem interpolate_double (environment : Environment) (text : List Char) :
    interpolate environment (double text) = some text := by
  simp only [interpolate, parts_double, Option.bind_eq_bind, Option.bind_some, mapM_ofChar,
    Option.pure_def]
  rw [List.flatten_eq_flatMap, List.flatMap_map]
  exact congrArg _ (List.flatMap_singleton' text)

end FivegLab.Interpolation
