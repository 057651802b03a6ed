import FivegLab.Calendar.Basic
import Mathlib.Data.String.Basic
import Mathlib.Tactic.IntervalCases

/-!
# Dates as text

The ISO 8601 text of a date and time.  Its parts have fixed widths, so the
order of the texts is the order of the instants, as far as the texts have the
same length.
-/

namespace FivegLab.Calendar

/-- Texts that begin with parts of the same length are compared part by part. -/
theorem append_lt_append_iff {first other : List Char} (same : first.length = other.length)
    (rest otherRest : List Char) :
    first ++ rest < other ++ otherRest ↔ first < other ∨ first = other ∧ rest < otherRest := by
  induction first generalizing other with
  | nil =>
      rcases List.length_eq_zero_iff.mp same.symm with rfl
      simp
  | cons head first ih =>
      cases other with
      | nil => exact absurd same (by simp)
      | cons otherHead other =>
          have tails : first ++ rest < other ++ otherRest ↔
              first < other ∨ first = other ∧ rest < otherRest := ih (by simpa using same)
          simp only [List.cons_append, List.cons_lt_cons_iff, tails, List.cons.injEq]
          tauto

/-- A comparison of four parts, the first three of which belong together. -/
theorem nested_lex {first second third rest sameFirst sameSecond sameThird : Prop} :
    (first ∨ sameFirst ∧ (second ∨ sameSecond ∧ (third ∨ sameThird ∧ rest))) ↔
      (first ∨ sameFirst ∧ (second ∨ sameSecond ∧ third)) ∨
        (sameFirst ∧ sameSecond ∧ sameThird) ∧ rest := by
  tauto

theorem cons_lt_cons_same (c : Char) (rest otherRest : List Char) :
    c :: rest < c :: otherRest ↔ rest < otherRest := by
  simp

/-- The last digits of a number. -/
def padded : ℕ → ℕ → List Char
  | 0, _ => []
  | width + 1, number => padded width (number / 10) ++ [Nat.digitChar (number % 10)]

def asciiDigit (c : Char) : Option ℕ := if '0' ≤ c ∧ c ≤ '9' then some (c.toNat - 48) else none

/-- The number that a list of digits writes. -/
def readDigits (value : Char → Option ℕ) (digits : List Char) : Option ℕ :=
  digits.foldlM (fun number c => (value c).map fun digit => number * 10 + digit) 0

@[simp]
theorem length_padded (width number : ℕ) : (padded width number).length = width := by
  induction width generalizing number with
  | zero => rfl
  | succ width ih => simp [padded, ih]

theorem digitChar_lt_iff {digit other : ℕ} (small : digit < 10) (otherSmall : other < 10) :
    Nat.digitChar digit < Nat.digitChar other ↔ digit < other := by
  have all : ∀ digit < 10, ∀ other < 10,
      (Nat.digitChar digit < Nat.digitChar other ↔ digit < other) := by decide
  exact all digit small other otherSmall

theorem asciiDigit_digitChar {digit : ℕ} (small : digit < 10) :
    asciiDigit (Nat.digitChar digit) = some digit := by
  have all : ∀ digit < 10, asciiDigit (Nat.digitChar digit) = some digit := by decide
  exact all digit small

theorem readDigits_padded (width number : ℕ) :
    readDigits asciiDigit (padded width number) = some (number % 10 ^ width) := by
  induction width generalizing number with
  | zero => simp [readDigits, padded, Nat.mod_one]
  | succ width ih =>
      have last := asciiDigit_digitChar (Nat.mod_lt number (by decide : 0 < 10))
      have whole : number / 10 % 10 ^ width * 10 + number % 10 = number % 10 ^ (width + 1) := by
        rw [pow_succ', Nat.mod_mul]
        omega
      unfold readDigits at ih ⊢
      rw [padded, List.foldlM_append, ih]
      simp [last, whole]

/-- The first digits of a number are those of its quotient. -/
theorem padded_add (width more number : ℕ) :
    padded (width + more) number = padded width (number / 10 ^ more) ++ padded more number := by
  induction more generalizing number with
  | zero => simp [padded]
  | succ more ih =>
      have quotient : number / 10 / 10 ^ more = number / 10 ^ (more + 1) := by
        rw [Nat.div_div_eq_div_mul, pow_succ']
      rw [← Nat.add_assoc, padded, ih, quotient, padded, List.append_assoc]

theorem padded_injective {width number other : ℕ} (small : number < 10 ^ width)
    (otherSmall : other < 10 ^ width) (same : padded width number = padded width other) :
    number = other := by
  have read := readDigits_padded width number
  rw [same, readDigits_padded, Nat.mod_eq_of_lt small, Nat.mod_eq_of_lt otherSmall] at read
  exact (Option.some.inj read).symm

theorem padded_lt_iff {width number other : ℕ} (small : number < 10 ^ width)
    (otherSmall : other < 10 ^ width) :
    padded width number < padded width other ↔ number < other := by
  induction width generalizing number other with
  | zero =>
      have first : number = 0 := by omega
      have second : other = 0 := by omega
      simp [padded, first, second]
  | succ width ih =>
      have tens : number / 10 < 10 ^ width := by
        rw [pow_succ'] at small
        omega
      have otherTens : other / 10 < 10 ^ width := by
        rw [pow_succ'] at otherSmall
        omega
      have digit : number % 10 < 10 := Nat.mod_lt _ (by decide)
      have otherDigit : other % 10 < 10 := Nat.mod_lt _ (by decide)
      rw [padded, padded, append_lt_append_iff (by simp), ih tens otherTens]
      have last : [Nat.digitChar (number % 10)] < [Nat.digitChar (other % 10)] ↔
          number % 10 < other % 10 := by
        rw [List.cons_lt_cons_iff, digitChar_lt_iff digit otherDigit]
        simp
      rw [last]
      constructor
      · rintro (less | ⟨same, less⟩)
        · omega
        · have equal := padded_injective tens otherTens same
          omega
      · intro less
        rcases Nat.lt_or_ge (number / 10) (other / 10) with lessTens | more
        · exact .inl lessTens
        · have equal : number / 10 = other / 10 := by omega
          exact .inr ⟨by rw [equal], by omega⟩

namespace DateTime

/-- A date and time to the second. -/
def secondsText (stamp : DateTime) : List Char :=
  padded 4 stamp.date.year ++ ('-' :: (padded 2 stamp.date.month ++ ('-' ::
    (padded 2 stamp.date.day ++ ('T' :: (padded 2 stamp.time.hour ++ (':' ::
      (padded 2 stamp.time.minute ++ (':' :: padded 2 stamp.time.second)))))))))

/-- The fraction of a second, unless it is zero. -/
def fractionText (stamp : DateTime) : List Char :=
  if stamp.time.microsecond = 0 then [] else '.' :: padded 6 stamp.time.microsecond

/-- `isoformat()`, without an offset. -/
def isoformat (stamp : DateTime) : List Char := stamp.secondsText ++ stamp.fractionText

variable {stamp other : DateTime}

@[simp]
theorem length_secondsText (stamp : DateTime) : stamp.secondsText.length = 19 := by
  simp [secondsText]

theorem secondsText_lt_iff :
    stamp.secondsText < other.secondsText ↔ stamp.seconds < other.seconds := by
  rcases stamp.date.valid with ⟨⟨_, year⟩, ⟨_, month⟩, _, day⟩
  rcases other.date.valid with ⟨⟨_, otherYear⟩, ⟨_, otherMonth⟩, _, otherDay⟩
  rcases stamp.time.valid with ⟨hour, minute, second, _⟩
  rcases other.time.valid with ⟨otherHour, otherMinute, otherSecond, _⟩
  have long := monthLength_le stamp.date.year stamp.date.month
  have otherLong := monthLength_le other.date.year other.date.month
  have years : padded 4 stamp.date.year = padded 4 other.date.year ↔
      stamp.date.year = other.date.year :=
    ⟨padded_injective (by omega) (by omega), congrArg _⟩
  have pairs : ∀ number other, number < 100 → other < 100 →
      (padded 2 number = padded 2 other ↔ number = other) ∧
        (padded 2 number < padded 2 other ↔ number < other) := by
    intro number other small otherSmall
    exact ⟨⟨padded_injective small otherSmall, congrArg _⟩, padded_lt_iff small otherSmall⟩
  have months := pairs stamp.date.month other.date.month (by omega) (by omega)
  have days := pairs stamp.date.day other.date.day (by omega) (by omega)
  have hours := pairs stamp.time.hour other.time.hour (by omega) (by omega)
  have minutes := pairs stamp.time.minute other.time.minute (by omega) (by omega)
  have seconds := pairs stamp.time.second other.time.second (by omega) (by omega)
  rw [seconds_lt_iff, Date.ordinal_lt_iff, Time.seconds_lt_iff]
  unfold secondsText
  rw [append_lt_append_iff (by simp), cons_lt_cons_same, append_lt_append_iff (by simp),
    cons_lt_cons_same, append_lt_append_iff (by simp), cons_lt_cons_same,
    append_lt_append_iff (by simp), cons_lt_cons_same, append_lt_append_iff (by simp),
    cons_lt_cons_same, years, months.1, months.2, days.1, days.2, hours.1, hours.2, minutes.1,
    minutes.2, seconds.2, padded_lt_iff (by omega) (by omega)]
  rw [Date.ordinal_eq_iff]
  exact nested_lex

theorem secondsText_eq_iff :
    stamp.secondsText = other.secondsText ↔ stamp.seconds = other.seconds := by
  constructor
  · intro same
    have notBefore : ¬stamp.seconds < other.seconds := by
      rw [← secondsText_lt_iff, same]
      exact lt_irrefl _
    have notAfter : ¬other.seconds < stamp.seconds := by
      rw [← secondsText_lt_iff, same]
      exact lt_irrefl _
    omega
  · intro same
    have notBefore : ¬stamp.secondsText < other.secondsText := by
      rw [secondsText_lt_iff]
      omega
    have notAfter : ¬other.secondsText < stamp.secondsText := by
      rw [secondsText_lt_iff]
      omega
    exact le_antisymm (not_lt.mp notAfter) (not_lt.mp notBefore)

/-- The text of a date and time in UTC. -/
def utcText (stamp : DateTime) : List Char := stamp.isoformat ++ ['Z']

/-- Where a fraction stands among the texts of its second: a zero fraction is not
written, and comes last. -/
def fractionRank (stamp : DateTime) : ℕ :=
  if stamp.time.microsecond = 0 then 1000000 else stamp.time.microsecond

/-- The order of the texts is that of the seconds, and within a second that of the
ranks. -/
theorem utcText_lt_iff : stamp.utcText < other.utcText ↔ stamp.seconds < other.seconds ∨
    stamp.seconds = other.seconds ∧ stamp.fractionRank < other.fractionRank := by
  have micro := stamp.time.valid.2.2.2
  have otherMicro := other.time.valid.2.2.2
  have tails : stamp.fractionText ++ ['Z'] < other.fractionText ++ ['Z'] ↔
      stamp.fractionRank < other.fractionRank := by
    unfold fractionText fractionRank
    split
    case isTrue zero =>
      split
      case isTrue otherZero => simp
      case isFalse otherSome =>
        have order : ¬('Z' < '.') := by decide
        simp only [List.nil_append, List.cons_append, List.cons_lt_cons_iff, order, false_or]
        simp
        omega
    case isFalse some =>
      split
      case isTrue otherZero =>
        have order : '.' < 'Z' := by decide
        simp only [List.nil_append, List.cons_append, List.cons_lt_cons_iff, order, true_or,
          true_iff]
        omega
      case isFalse otherSome =>
        rw [List.cons_append, List.cons_append, cons_lt_cons_same,
          append_lt_append_iff (by simp), padded_lt_iff (by omega) (by omega)]
        simp
  unfold utcText isoformat
  rw [List.append_assoc, List.append_assoc, append_lt_append_iff (by simp), secondsText_lt_iff,
    secondsText_eq_iff, tails]

end DateTime

/-- The number that the first characters write. -/
def readNumber (width : ℕ) (text : List Char) : Option (ℕ × List Char) :=
  if text.length < width then none
  else (readDigits asciiDigit (text.take width)).map fun number => (number, text.drop width)

/-- The rest after a character. -/
def expect (c : Char) : List Char → Option (List Char)
  | [] => none
  | head :: rest => if head = c then some rest else none

/-- The microseconds that the digits of a fraction write; digits after the sixth do not
count. -/
def readMicroseconds (digits : List Char) : Option ℕ :=
  if digits = [] then none
  else (readDigits asciiDigit (digits.take 6)).map fun number => number * 10 ^ (6 - digits.length)

def isAsciiDigit (c : Char) : Bool := (asciiDigit c).isSome

/-- A fraction of a second, if there is one. -/
def readFraction : List Char → Option (ℕ × List Char)
  | '.' :: text =>
      (readMicroseconds (text.takeWhile isAsciiDigit)).map fun microsecond =>
        (microsecond, text.dropWhile isAsciiDigit)
  | text => some (0, text)

/-- An offset from UTC in seconds, less than a day. -/
def readOffset (text : List Char) : Option ℤ := do
  let (sign, text) ← text.head?.map (·, text.tail)
  let (hours, text) ← readNumber 2 text
  let text ← expect ':' text
  let (minutes, text) ← readNumber 2 text
  let seconds := (hours * 60 + minutes) * 60
  if text ≠ [] ∨ 86400 ≤ seconds then none
  else if sign = '+' then some seconds
  else if sign = '-' then some (-seconds)
  else none

/-- An offset from UTC, if there is one. -/
def readZone (text : List Char) : Option (Option ℤ) :=
  if text = [] then some none else (readOffset text).map some

/-- A date and time with its offset from UTC, if it has one. -/
structure Zoned where
  stamp : DateTime
  offset : Option ℤ
  deriving DecidableEq, Repr

/-- `datetime.fromisoformat(text)` for a text with a date, one character, a time to the
second, and maybe a fraction and an offset; `none` is a `ValueError`. -/
def fromisoformat (text : List Char) : Option Zoned := do
  let (year, text) ← readNumber 4 text
  let text ← expect '-' text
  let (month, text) ← readNumber 2 text
  let text ← expect '-' text
  let (day, text) ← readNumber 2 text
  let text ← text.tail?
  let (hour, text) ← readNumber 2 text
  let text ← expect ':' text
  let (minute, text) ← readNumber 2 text
  let text ← expect ':' text
  let (second, text) ← readNumber 2 text
  let (microsecond, text) ← readFraction text
  let offset ← readZone text
  let date ← Date.ofParts year month day
  let time ← Time.ofParts hour minute second microsecond
  return ⟨⟨date, time⟩, offset⟩

theorem readNumber_padded {width number : ℕ} (small : number < 10 ^ width) (rest : List Char) :
    readNumber width (padded width number ++ rest) = some (number, rest) := by
  have long : ¬(padded width number ++ rest).length < width := by simp
  have digits : (padded width number ++ rest).take width = padded width number := by simp
  have dropped : (padded width number ++ rest).drop width = rest := by simp
  rw [readNumber, if_neg long, digits, dropped, readDigits_padded, Nat.mod_eq_of_lt small]
  rfl

@[simp]
theorem expect_cons (c : Char) (rest : List Char) : expect c (c :: rest) = some rest :=
  if_pos rfl

/-- A date and a time to the second, in front of a text. -/
def spelled (stamp : DateTime) (separator : Char) (tail : List Char) : List Char :=
  padded 4 stamp.date.year ++ ('-' :: (padded 2 stamp.date.month ++ ('-' ::
    (padded 2 stamp.date.day ++ (separator :: (padded 2 stamp.time.hour ++ (':' ::
      (padded 2 stamp.time.minute ++ (':' :: (padded 2 stamp.time.second ++ tail))))))))))

theorem secondsText_append (stamp : DateTime) (tail : List Char) :
    stamp.secondsText ++ tail = spelled stamp 'T' tail := by
  simp [DateTime.secondsText, spelled]

/-- The time with another fraction of its second. -/
def Time.withMicrosecond (time : Time) (microsecond : ℕ) (small : microsecond < 1000000) :
    Time where
  hour := time.hour
  minute := time.minute
  second := time.second
  microsecond := microsecond
  valid := ⟨time.valid.1, time.valid.2.1, time.valid.2.2.1, small⟩

/-- A spelled date and time is read back, with the fraction and the offset after it. -/
theorem fromisoformat_spelled {stamp : DateTime} {separator : Char} {tail zone : List Char}
    {microsecond : ℕ} {offset : Option ℤ} (small : microsecond < 1000000)
    (fraction : readFraction tail = some (microsecond, zone))
    (shift : readZone zone = some offset) :
    fromisoformat (spelled stamp separator tail) =
      some ⟨⟨stamp.date, stamp.time.withMicrosecond microsecond small⟩, offset⟩ := by
  rcases stamp.date.valid with ⟨⟨_, year⟩, ⟨_, month⟩, _, day⟩
  rcases stamp.time.valid with ⟨hour, minute, second, _⟩
  have long := monthLength_le stamp.date.year stamp.date.month
  have date : Date.ofParts stamp.date.year stamp.date.month stamp.date.day = some stamp.date :=
    Date.ofParts_eq_some_iff.mpr ⟨rfl, rfl, rfl⟩
  have time : Time.ofParts stamp.time.hour stamp.time.minute stamp.time.second microsecond =
      some (stamp.time.withMicrosecond microsecond small) :=
    Time.ofParts_eq_some_iff.mpr ⟨rfl, rfl, rfl, rfl⟩
  have pair : ∀ number, number < 100 → ∀ rest,
      readNumber 2 (padded 2 number ++ rest) = some (number, rest) :=
    fun number small rest => readNumber_padded small rest
  unfold fromisoformat spelled
  rw [readNumber_padded (by omega)]
  dsimp only [bind, Option.bind]
  rw [expect_cons]
  dsimp only
  rw [pair _ (by omega)]
  dsimp only
  rw [expect_cons]
  dsimp only
  rw [pair _ (by omega)]
  dsimp only
  rw [List.tail?_cons]
  dsimp only
  rw [pair _ (by omega)]
  dsimp only
  rw [expect_cons]
  dsimp only
  rw [pair _ (by omega)]
  dsimp only
  rw [expect_cons]
  dsimp only
  rw [pair _ (by omega)]
  dsimp only
  rw [fraction]
  dsimp only
  rw [shift]
  dsimp only
  rw [date, time]
  rfl

theorem readFraction_of_head {text : List Char} (plain : text.head? ≠ some '.') :
    readFraction text = some (0, text) := by
  unfold readFraction
  split
  · exact absurd rfl plain
  · rfl

/-- The digits after a point end where the ASCII digits end. -/
theorem readFraction_digits {digits rest : List Char} (ascii : ∀ c ∈ digits, isAsciiDigit c)
    (ends : ∀ c ∈ rest.head?, isAsciiDigit c = false) :
    readFraction ('.' :: (digits ++ rest)) =
      (readMicroseconds digits).map fun microsecond => (microsecond, rest) := by
  have stops : rest.takeWhile isAsciiDigit = [] ∧ rest.dropWhile isAsciiDigit = rest := by
    cases rest with
    | nil => exact ⟨rfl, rfl⟩
    | cons c rest =>
        have last := ends c rfl
        exact ⟨by simp [last], by simp [last]⟩
  have taken : (digits ++ rest).takeWhile isAsciiDigit = digits := by
    rw [List.takeWhile_append_of_pos ascii, stops.1, List.append_nil]
  have dropped : (digits ++ rest).dropWhile isAsciiDigit = rest := by
    rw [List.dropWhile_append_of_pos ascii, stops.2]
  rw [readFraction, taken, dropped]

theorem isAsciiDigit_padded {width number : ℕ} {c : Char} (mem : c ∈ padded width number) :
    isAsciiDigit c := by
  induction width generalizing number with
  | zero => exact absurd mem (by simp [padded])
  | succ width ih =>
      rw [padded, List.mem_append, List.mem_singleton] at mem
      rcases mem with earlier | rfl
      · exact ih earlier
      · unfold isAsciiDigit
        rw [asciiDigit_digitChar (Nat.mod_lt _ (by decide))]
        rfl

theorem readMicroseconds_padded {microsecond : ℕ} (small : microsecond < 1000000) :
    readMicroseconds (padded 6 microsecond) = some microsecond := by
  have some : padded 6 microsecond ≠ [] := by
    apply List.ne_nil_of_length_pos
    simp
  have whole : (padded 6 microsecond).take 6 = padded 6 microsecond := by
    apply List.take_of_length_le
    simp
  rw [readMicroseconds, if_neg some, whole, readDigits_padded, length_padded,
    Nat.mod_eq_of_lt (by omega)]
  simp

/-- The text of a date and time is read back. -/
theorem fromisoformat_isoformat (stamp : DateTime) {zone : List Char} {offset : Option ℤ}
    (plain : zone.head? ≠ some '.') (ends : ∀ c ∈ zone.head?, isAsciiDigit c = false)
    (shift : readZone zone = some offset) :
    fromisoformat (stamp.isoformat ++ zone) = some ⟨stamp, offset⟩ := by
  have small := stamp.time.valid.2.2.2
  have fraction : readFraction (stamp.fractionText ++ zone) =
      some (stamp.time.microsecond, zone) := by
    unfold DateTime.fractionText
    split
    case isTrue zero => rw [zero, List.nil_append, readFraction_of_head plain]
    case isFalse =>
      rw [List.cons_append, readFraction_digits (fun c mem => isAsciiDigit_padded mem) ends,
        readMicroseconds_padded small]
      rfl
  rw [DateTime.isoformat, List.append_assoc, secondsText_append,
    fromisoformat_spelled small fraction shift]
  rfl

end FivegLab.Calendar
