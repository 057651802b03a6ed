import Mathlib.Algebra.Group.Nat.Defs
import Mathlib.Data.List.Basic

/-!
# SHA-256

The digest of a byte string, over words that are natural numbers below `2 ^ 32`.
-/

namespace FivegLab.Sha256

def rotateRight (count word : ℕ) : ℕ :=
  word >>> count ||| word <<< (32 - count) % 2 ^ 32

def complement (word : ℕ) : ℕ := word ^^^ 0xffffffff

/-- Every bit of the first word chooses between the bits of the others. -/
def choose (x y z : ℕ) : ℕ := x &&& y ^^^ complement x &&& z

def majority (x y z : ℕ) : ℕ := x &&& y ^^^ x &&& z ^^^ y &&& z

def bigSigma0 (word : ℕ) : ℕ := rotateRight 2 word ^^^ rotateRight 13 word ^^^ rotateRight 22 word

def bigSigma1 (word : ℕ) : ℕ := rotateRight 6 word ^^^ rotateRight 11 word ^^^ rotateRight 25 word

def smallSigma0 (word : ℕ) : ℕ := rotateRight 7 word ^^^ rotateRight 18 word ^^^ word >>> 3

def smallSigma1 (word : ℕ) : ℕ := rotateRight 17 word ^^^ rotateRight 19 word ^^^ word >>> 10

/-- The round constants. -/
def constants : List ℕ :=
  [0x428a2f98, 0x71374491, 0xb5c0fbcf, 0xe9b5dba5, 0x3956c25b, 0x59f111f1, 0x923f82a4, 0xab1c5ed5,
    0xd807aa98, 0x12835b01, 0x243185be, 0x550c7dc3, 0x72be5d74, 0x80deb1fe, 0x9bdc06a7, 0xc19bf174,
    0xe49b69c1, 0xefbe4786, 0x0fc19dc6, 0x240ca1cc, 0x2de92c6f, 0x4a7484aa, 0x5cb0a9dc, 0x76f988da,
    0x983e5152, 0xa831c66d, 0xb00327c8, 0xbf597fc7, 0xc6e00bf3, 0xd5a79147, 0x06ca6351, 0x14292967,
    0x27b70a85, 0x2e1b2138, 0x4d2c6dfc, 0x53380d13, 0x650a7354, 0x766a0abb, 0x81c2c92e, 0x92722c85,
    0xa2bfe8a1, 0xa81a664b, 0xc24b8b70, 0xc76c51a3, 0xd192e819, 0xd6990624, 0xf40e3585, 0x106aa070,
    0x19a4c116, 0x1e376c08, 0x2748774c, 0x34b0bcb5, 0x391c0cb3, 0x4ed8aa4a, 0x5b9cca4f, 0x682e6ff3,
    0x748f82ee, 0x78a5636f, 0x84c87814, 0x8cc70208, 0x90befffa, 0xa4506ceb, 0xbef9a3f7, 0xc67178f2]

/-- The working variables of a compression. -/
structure Registers where
  a : ℕ
  b : ℕ
  c : ℕ
  d : ℕ
  e : ℕ
  f : ℕ
  g : ℕ
  h : ℕ
  deriving DecidableEq, Repr

def initial : Registers where
  a := 0x6a09e667
  b := 0xbb67ae85
  c := 0x3c6ef372
  d := 0xa54ff53a
  e := 0x510e527f
  f := 0x9b05688c
  g := 0x1f83d9ab
  h := 0x5be0cd19

/-- One round, with a constant and a word of the schedule. -/
def round (registers : Registers) (input : ℕ × ℕ) : Registers :=
  let ⟨a, b, c, d, e, f, g, h⟩ := registers
  let first := h + bigSigma1 e + choose e f g + input.1 + input.2
  let second := bigSigma0 a + majority a b c
  ⟨(first + second) % 2 ^ 32, a, b, c, (d + first) % 2 ^ 32, e, f, g⟩

/-- Extend a schedule, whose last word comes first. -/
def extend : ℕ → List ℕ → List ℕ
  | 0, words => words
  | count + 1, words =>
      extend count
        ((smallSigma1 (words.getD 1 0) + words.getD 6 0 + smallSigma0 (words.getD 14 0) +
          words.getD 15 0) % 2 ^ 32 :: words)

def compress (state : Registers) (block : List ℕ) : Registers :=
  let ⟨a, b, c, d, e, f, g, h⟩ := state
  let last := (constants.zip (extend 48 block.reverse).reverse).foldl round state
  ⟨(a + last.a) % 2 ^ 32, (b + last.b) % 2 ^ 32, (c + last.c) % 2 ^ 32, (d + last.d) % 2 ^ 32,
    (e + last.e) % 2 ^ 32, (f + last.f) % 2 ^ 32, (g + last.g) % 2 ^ 32, (h + last.h) % 2 ^ 32⟩

/-- The bytes of a number, the most significant one first. -/
def bigEndian : ℕ → ℕ → List ℕ
  | 0, _ => []
  | count + 1, number => number / 256 ^ count % 256 :: bigEndian count number

/-- A message with its padding and its length. -/
def pad (message : List ℕ) : List ℕ :=
  message ++ [0x80] ++ List.replicate ((119 - message.length % 64) % 64) 0 ++
    bigEndian 8 (8 * message.length)

/-- The words of a padded message. -/
def toWords : List ℕ → List ℕ
  | a :: b :: c :: d :: rest => (a * 2 ^ 24 + b * 2 ^ 16 + c * 2 ^ 8 + d) :: toWords rest
  | _ => []

/-- Compress block by block, for at most `count` blocks. -/
def compressAll : ℕ → Registers → List ℕ → Registers
  | 0, state, _ => state
  | _ + 1, state, [] => state
  | count + 1, state, words => compressAll count (compress state (words.take 16)) (words.drop 16)

def digest (message : List UInt8) : Registers :=
  let words := toWords (pad (message.map UInt8.toNat))
  compressAll words.length initial words

/-- The digits of a word. -/
def hexWord (word : ℕ) : List Char :=
  (bigEndian 4 word).flatMap fun byte => [Nat.digitChar (byte / 16), Nat.digitChar (byte % 16)]

def Registers.words (registers : Registers) : List ℕ :=
  [registers.a, registers.b, registers.c, registers.d, registers.e, registers.f, registers.g,
    registers.h]

/-- `hashlib.sha256(message).hexdigest()`. -/
def hexdigest (message : List UInt8) : String :=
  String.ofList ((digest message).words.flatMap hexWord)

theorem hexWord_length (word : ℕ) : (hexWord word).length = 8 := rfl

/-- A digest has sixty-four digits. -/
theorem hexdigest_length (message : List UInt8) : (hexdigest message).toList.length = 64 := by
  simp [hexdigest, Registers.words, hexWord_length]

theorem digitChar_hex {digit : ℕ} (bound : digit < 16) :
    Nat.digitChar digit ∈ "0123456789abcdef".toList := by
  revert digit
  decide

theorem bigEndian_lt {count number byte : ℕ} (member : byte ∈ bigEndian count number) :
    byte < 256 := by
  induction count with
  | zero => simp [bigEndian] at member
  | succ count ih =>
      rcases List.mem_cons.mp member with rfl | member
      · exact Nat.mod_lt _ (by decide)
      · exact ih member

/-- They are lower-case hexadecimal digits. -/
theorem hexdigest_hex (message : List UInt8) :
    ∀ c ∈ (hexdigest message).toList, c ∈ "0123456789abcdef".toList := by
  intro c member
  simp only [hexdigest, String.toList_ofList, List.mem_flatMap, hexWord] at member
  rcases member with ⟨word, _, byte, inWord, digit⟩
  have bound := bigEndian_lt inWord
  simp only [List.mem_cons, List.not_mem_nil, or_false] at digit
  rcases digit with rfl | rfl
  · exact digitChar_hex (by omega)
  · exact digitChar_hex (by omega)

example : hexdigest [0x61, 0x62, 0x63] =
    "ba7816bf8f01cfea414140de5dae2223b00361a396177a9cb410ff61f20015ad" := by
  decide +kernel

end FivegLab.Sha256
