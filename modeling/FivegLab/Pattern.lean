import FivegLab.Text

/-!
# Regular expressions

The regular expressions that the program searches in the output of commands.
-/

namespace FivegLab

/-- The expression `key\s*value`, optionally followed by white space or the end of
the text. -/
structure FieldPattern where
  key : String
  value : String
  ignoreCase : Bool
  bounded : Bool
  deriving DecidableEq, Repr

namespace FieldPattern

/-- The character that stands for all characters that match it without regard to
case. -/
def foldCase (c : Char) : Char :=
  if c.toNat = 0x130 ∨ c.toNat = 0x131 then 'i'
  else if c.toNat = 0x17f then 's'
  else if c.toNat = 0x212a then 'k'
  else Text.lowerChar c

variable (pattern : FieldPattern)

/-- The rest of a text after a literal part of the expression. -/
def afterLiteral : List Char → List Char → Option (List Char)
  | [], text => some text
  | _ :: _, [] => none
  | c :: part, d :: text =>
      if c = d ∨ pattern.ignoreCase ∧ foldCase c = foldCase d then afterLiteral part text
      else none

/-- Nothing may follow the value but white space, when the expression says so. -/
def endsHere (rest : List Char) : Bool :=
  match rest with
  | [] => true
  | c :: _ => !pattern.bounded || Text.isSpace c

def matchesAt (text : List Char) : Bool :=
  match pattern.afterLiteral pattern.key.toList text with
  | none => false
  | some rest =>
      match pattern.afterLiteral pattern.value.toList (rest.dropWhile Text.isSpace) with
      | none => false
      | some rest => pattern.endsHere rest

/-- `re.search(pattern, text)` finds a match. -/
def search (text : String) : Bool := text.toList.tails.any pattern.matchesAt

/-- The expression as the source writes it. -/
def source : String :=
  pattern.key ++ "\\s*" ++ pattern.value ++ if pattern.bounded then "(?:\\s|$)" else ""

end FieldPattern

/-- Skip a colour code after its escape character. -/
def afterColourCode : List Char → Option (List Char)
  | '[' :: rest =>
      match rest.dropWhile fun c => c.isDigit || c == ';' with
      | 'm' :: rest => some rest
      | _ => none
  | _ => none

/-- Remove the colour codes `\x1b\[[0-9;]*m`, looking at most `limit` times. -/
def withoutColourChars : ℕ → List Char → List Char
  | 0, text => text
  | _ + 1, [] => []
  | limit + 1, c :: rest =>
      match if c.toNat = 0x1b then afterColourCode rest else none with
      | some rest => withoutColourChars limit rest
      | none => c :: withoutColourChars limit rest

/-- `ANSI.sub("", text)`. -/
def withoutColour (text : String) : String :=
  String.ofList (withoutColourChars text.length text.toList)

example : withoutColour "\x1b[1;32mNRF\x1b[0m \x1b[x" = "NRF \x1b[x" := by decide

end FivegLab
