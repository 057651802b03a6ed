import Mathlib.Data.List.Infix

/-!
# Text operations of the source language

The methods of `str` that the program uses, on the characters of a string.
White space and line boundaries are those of `str.isspace` and
`str.splitlines`.  `lower` and `upper` change ASCII letters only.  Two other characters
lower to ASCII letters: U+212A to `k`, and U+0130 to `i` with a combining dot behind
it.  No text that the program looks for after lowering has a `k`, and each `i` in one
has a letter directly behind it.  Names of services and of log files are raised.
-/

namespace FivegLab.Text

/-- White space, for `str.strip` and for `\s` of a regular expression. -/
def isSpace (c : Char) : Bool :=
  (0x09 ≤ c.toNat && c.toNat ≤ 0x0d) || (0x1c ≤ c.toNat && c.toNat ≤ 0x20) ||
    c.toNat == 0x85 || c.toNat == 0xa0 || c.toNat == 0x1680 ||
    (0x2000 ≤ c.toNat && c.toNat ≤ 0x200a) || c.toNat == 0x2028 || c.toNat == 0x2029 ||
    c.toNat == 0x202f || c.toNat == 0x205f || c.toNat == 0x3000

/-- A character that ends a line, for `str.splitlines`. -/
def isLineBreak (c : Char) : Bool :=
  (0x0a ≤ c.toNat && c.toNat ≤ 0x0d) || (0x1c ≤ c.toNat && c.toNat ≤ 0x1e) ||
    c.toNat == 0x85 || c.toNat == 0x2028 || c.toNat == 0x2029

/-- The characters between the outer white space. -/
def stripChars (text : List Char) : List Char :=
  ((text.dropWhile isSpace).reverse.dropWhile isSpace).reverse

/-- `text.strip()`. -/
def strip (text : String) : String := String.ofList (stripChars text.toList)

/-- A text with visible ends loses nothing but the line end after it. -/
theorem strip_line {text : String} {first last : Char} {middle : List Char}
    (chars : text.toList = first :: (middle ++ [last])) (firstVisible : isSpace first = false)
    (lastVisible : isSpace last = false) : strip (text ++ "\n" ++ "") = text := by
  have newline : ("\n" : String).toList = ['\n'] := rfl
  have blank : isSpace '\n' = true := rfl
  have stripped : stripChars (first :: (middle ++ [last]) ++ ['\n']) =
      first :: (middle ++ [last]) := by
    simp [stripChars, firstVisible, lastVisible, blank]
  rw [strip, String.append_empty, String.toList_append, chars, newline, stripped, ← chars,
    String.ofList_toList]

/-- The lines of a text, without their ends; `\r\n` is one end. -/
def splitLinesChars : List Char → List (List Char)
  | [] => []
  | '\r' :: '\n' :: rest => [] :: splitLinesChars rest
  | c :: rest =>
      if isLineBreak c then [] :: splitLinesChars rest
      else match splitLinesChars rest with
        | [] => [[c]]
        | line :: lines => (c :: line) :: lines

/-- `text.splitlines()`. -/
def splitlines (text : String) : List String := (splitLinesChars text.toList).map String.ofList

/-- Split at the first `count` occurrences of a separator. -/
def splitMaxChars (separator : Char) : ℕ → List Char → List (List Char)
  | 0, text => [text]
  | _ + 1, [] => [[]]
  | count + 1, c :: rest =>
      if c = separator then [] :: splitMaxChars separator count rest
      else match splitMaxChars separator (count + 1) rest with
        | [] => [[c]]
        | field :: fields => (c :: field) :: fields

/-- `text.split(separator, maxsplit=count)`. -/
def splitMax (separator : Char) (count : ℕ) (text : String) : List String :=
  (splitMaxChars separator count text.toList).map String.ofList

/-- The words of a text: its maximal parts without white space. -/
def wordsChars : List Char → List (List Char)
  | [] => []
  | c :: rest =>
      if isSpace c then wordsChars rest
      else match rest with
        | [] => [[c]]
        | next :: _ =>
            if isSpace next then [c] :: wordsChars rest
            else match wordsChars rest with
              | [] => [[c]]
              | word :: words => (c :: word) :: words

/-- `text.split()`. -/
def words (text : String) : List String := (wordsChars text.toList).map String.ofList

/-- `part in text`. -/
def Contains (text part : String) : Prop := part.toList <:+: text.toList

instance (text part : String) : Decidable (Contains text part) :=
  inferInstanceAs (Decidable (part.toList <:+: text.toList))

/-- `text.startswith(start)`. -/
def StartsWith (text start : String) : Prop := start.toList <+: text.toList

instance (text start : String) : Decidable (StartsWith text start) :=
  inferInstanceAs (Decidable (start.toList <+: text.toList))

/-- `text.endswith(end)`. -/
def EndsWith (text ending : String) : Prop := ending.toList <:+ text.toList

instance (text ending : String) : Decidable (EndsWith text ending) :=
  inferInstanceAs (Decidable (ending.toList <:+ text.toList))

/-- The position of the last occurrence of `part`, if there is one. -/
def lastIndexChars (part : List Char) : List Char → Option ℕ
  | [] => if part = [] then some 0 else none
  | c :: rest =>
      match lastIndexChars part rest with
      | some index => some (index + 1)
      | none => if part <+: c :: rest then some 0 else none

/-- `text.rfind(part)`. -/
def rfind (text part : String) : ℤ :=
  match lastIndexChars part.toList text.toList with
  | some index => index
  | none => -1

/-- The lower case of an ASCII letter; every other character itself. -/
def lowerChar (c : Char) : Char :=
  if 'A' ≤ c ∧ c ≤ 'Z' then Char.ofNat (c.toNat + 32) else c

/-- `text.lower()`. -/
def lower (text : String) : String := String.ofList (text.toList.map lowerChar)

def upperChar (c : Char) : Char :=
  if 'a' ≤ c ∧ c ≤ 'z' then Char.ofNat (c.toNat - 32) else c

/-- `text.upper()`. -/
def upper (text : String) : String := String.ofList (text.toList.map upperChar)

/-- `first or second or ...`: the first text that is not empty, else the last. -/
def orElse (text alternative : String) : String := if text = "" then alternative else text

end FivegLab.Text
