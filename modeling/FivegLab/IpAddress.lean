import FivegLab.Text
import Mathlib.Algebra.Group.Nat.Defs

/-!
# IP addresses

The texts that `ipaddress` accepts, and what the program reads of them: the
number and the prefix length of a version 4 address, and whether a version 6
address is valid.
-/

namespace FivegLab

namespace IpAddress

def isDigit (c : Char) : Bool := '0' ≤ c && c ≤ '9'

def isHexDigit (c : Char) : Bool :=
  isDigit c || ('a' ≤ c && c ≤ 'f') || ('A' ≤ c && c ≤ 'F')

/-- The value of a text of ASCII digits. -/
def digits (text : List Char) : Option ℕ :=
  if text ≠ [] ∧ text.all isDigit then
    some (text.foldl (fun value c => 10 * value + (c.toNat - 48)) 0)
  else none

/-- Three digits at most, and none that leads with a zero. -/
def octet (text : List Char) : Option ℕ := do
  let value ← digits text
  if text.length ≤ 3 ∧ (text = ['0'] ∨ text.head? ≠ some '0') ∧ value ≤ 255 then some value
  else none

/-- The number of a version 4 address. -/
def address4 (text : List Char) : Option ℕ :=
  match text.splitOn '.' with
  | [first, second, third, fourth] => do
      let a ← octet first
      let b ← octet second
      let c ← octet third
      let d ← octet fourth
      return ((256 * a + b) * 256 + c) * 256 + d
  | _ => none

/-- The prefix length whose netmask is a number. -/
def netmaskLength (mask : ℕ) : Option ℕ :=
  (List.range 33).find? fun length => 2 ^ 32 - 2 ^ (32 - length) = mask

/-- A prefix length, in digits. -/
def digitsLength (max : ℕ) (text : List Char) : Option ℕ := do
  let length ← digits text
  if length ≤ max then some length else none

/-- A prefix length, a netmask or a hostmask. -/
def maskLength (text : List Char) : Option ℕ :=
  match digitsLength 32 text with
  | some length => some length
  | none => do
      let mask ← address4 text
      match netmaskLength mask with
      | some length => some length
      | none => netmaskLength (2 ^ 32 - 1 - mask)

/-- A version 4 address with a prefix length. -/
structure Interface4 where
  address : ℕ
  length : ℕ
  deriving DecidableEq, Repr

/-- `IPv4Interface(text)`. -/
def interface4 (text : String) : Option Interface4 :=
  match text.toList.splitOn '/' with
  | [address] => do
      let value ← address4 address
      return ⟨value, 32⟩
  | [address, mask] => do
      let value ← address4 address
      let length ← maskLength mask
      return ⟨value, length⟩
  | _ => none

/-- The interface with the bits of its host cleared. -/
def Interface4.network (interface : Interface4) : Interface4 :=
  { interface with
    address := interface.address - interface.address % 2 ^ (32 - interface.length) }

/-- `IPv4Network(text)`: no host bit is set. -/
def network4 (text : String) : Option Interface4 := do
  let interface ← interface4 text
  if interface.network = interface then some interface else none

/-- The dotted form of an address. -/
def dotted (address : ℕ) : String :=
  ".".intercalate ([address / 256 ^ 3, address / 256 ^ 2 % 256, address / 256 % 256,
    address % 256].map toString)

/-- `str(network)`. -/
def Interface4.text (interface : Interface4) : String :=
  dotted interface.address ++ "/" ++ toString interface.length

def isHextet (text : List Char) : Bool := text ≠ [] && text.all isHexDigit && text.length ≤ 4

/-- The parts of a version 6 address, with two in place of a version 4 suffix. -/
def hextets (text : List Char) : Option (List (List Char)) :=
  let parts := text.splitOn ':'
  let last := parts.getLast?.getD []
  if parts.length < 3 then none
  else if '.' ∈ last then
    if (address4 last).isSome then some (parts.dropLast ++ [['0'], ['0']]) else none
  else some parts

/-- The parts around the `::` at an index, without the empty ends that belong to it. -/
def validAround (parts : List (List Char)) (skip : ℕ) : Bool :=
  let high := parts.take skip
  let low := parts.drop (skip + 1)
  let high := if high.head? = some [] then high.tail else high
  let low := if low.getLast? = some [] then low.dropLast else low
  high.length + low.length < 8 && (high ++ low).all isHextet &&
    (parts.head? ≠ some [] || high.isEmpty) && (parts.getLast? ≠ some [] || low.isEmpty)

/-- A version 6 address, without its scope. -/
def valid6 (text : List Char) : Bool :=
  match hextets text with
  | none => false
  | some parts =>
      if 9 < parts.length then false
      else
        -- The ends do not open a run of zeros by themselves.
        let inner := (List.range parts.length).filter fun index =>
          0 < index && index + 1 < parts.length && parts[index]? = some []
        match inner with
        | [] => parts.length = 8 && parts.all isHextet
        | [skip] => validAround parts skip
        | _ => false

/-- A version 6 address, possibly with a scope. -/
def address6 (text : List Char) : Bool :=
  match Text.splitMaxChars '%' 1 text with
  | [address] => valid6 address
  | [address, scope] => scope ≠ [] && '%' ∉ scope && valid6 address
  | _ => false

/-- Does `IPv6Interface(text)` accept the text? -/
def interface6 (text : String) : Bool :=
  match text.toList.splitOn '/' with
  | [address] => address6 address
  | [address, mask] => address6 address && (digitsLength 128 mask).isSome
  | _ => false

/-- Does `ip_address(text)` accept the text? -/
def valid (text : String) : Bool :=
  '/' ∉ text.toList && ((address4 text.toList).isSome || address6 text.toList)

end IpAddress

end FivegLab
