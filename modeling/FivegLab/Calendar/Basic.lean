import Mathlib.Algebra.Order.Group.Nat
import Mathlib.Data.Nat.Basic
import Mathlib.Order.Monotone.Basic
import Mathlib.Tactic.SplitIfs

/-!
# The calendar

Dates of the proleptic Gregorian calendar in the years 1 to 9999, times of day,
and the instants they stand for, counted in microseconds.  A date and a time
carry the proofs that they exist.
-/

namespace FivegLab.Calendar

def IsLeap (year : ℕ) : Prop := 4 ∣ year ∧ (¬100 ∣ year ∨ 400 ∣ year)

instance (year : ℕ) : Decidable (IsLeap year) :=
  inferInstanceAs (Decidable (_ ∧ (_ ∨ _)))

def monthLength (year month : ℕ) : ℕ :=
  if month = 2 then if IsLeap year then 29 else 28
  else if month = 4 ∨ month = 6 ∨ month = 9 ∨ month = 11 then 30 else 31

def yearLength (year : ℕ) : ℕ := if IsLeap year then 366 else 365

/-- The year, the month and the day are those of a date. -/
def ValidDate (year month day : ℕ) : Prop :=
  (1 ≤ year ∧ year ≤ 9999) ∧ (1 ≤ month ∧ month ≤ 12) ∧ 1 ≤ day ∧ day ≤ monthLength year month

instance (year month day : ℕ) : Decidable (ValidDate year month day) :=
  inferInstanceAs (Decidable (_ ∧ _ ∧ _))

structure Date where
  year : ℕ
  month : ℕ
  day : ℕ
  valid : ValidDate year month day
  deriving DecidableEq, Repr

/-- The date with these parts, if there is one. -/
def Date.ofParts (year month day : ℕ) : Option Date :=
  if valid : ValidDate year month day then some ⟨year, month, day, valid⟩ else none

def daysBeforeYear (year : ℕ) : ℕ :=
  365 * (year - 1) + (year - 1) / 4 - (year - 1) / 100 + (year - 1) / 400

def daysBeforeMonth (year : ℕ) : ℕ → ℕ
  | 0 => 0
  | 1 => 0
  | month + 2 => daysBeforeMonth year (month + 1) + monthLength year (month + 1)

/-- The number of a date, counted from the first one. -/
def Date.ordinal (date : Date) : ℕ :=
  daysBeforeYear date.year + daysBeforeMonth date.year date.month + date.day

/-- The date after a date. -/
def Date.next (date : Date) : Option Date :=
  if date.day < monthLength date.year date.month then ofParts date.year date.month (date.day + 1)
  else if date.month < 12 then ofParts date.year (date.month + 1) 1
  else ofParts (date.year + 1) 1 1

/-- The date before a date. -/
def Date.previous (date : Date) : Option Date :=
  if 1 < date.day then ofParts date.year date.month (date.day - 1)
  else if 1 < date.month then
    ofParts date.year (date.month - 1) (monthLength date.year (date.month - 1))
  else ofParts (date.year - 1) 12 31

theorem monthLength_pos (year month : ℕ) : 28 ≤ monthLength year month := by
  unfold monthLength
  split_ifs <;> omega

theorem monthLength_le (year month : ℕ) : monthLength year month ≤ 31 := by
  unfold monthLength
  split_ifs <;> omega

theorem daysBeforeYear_succ {year : ℕ} (positive : 1 ≤ year) :
    daysBeforeYear (year + 1) = daysBeforeYear year + yearLength year := by
  obtain ⟨before, rfl⟩ : ∃ before, year = before + 1 := ⟨year - 1, by omega⟩
  have quarters := Nat.succ_div (a := before) (b := 4)
  have centuries := Nat.succ_div (a := before) (b := 100)
  have cycles := Nat.succ_div (a := before) (b := 400)
  have fewer : before / 100 ≤ before / 4 := by omega
  unfold daysBeforeYear yearLength IsLeap
  rw [Nat.add_sub_cancel, Nat.add_sub_cancel, quarters, centuries, cycles]
  by_cases cycle : 400 ∣ before + 1
  · have century : 100 ∣ before + 1 := Nat.dvd_trans (by decide) cycle
    have quarter : 4 ∣ before + 1 := Nat.dvd_trans (by decide) century
    simp [cycle, century, quarter]
    omega
  · by_cases century : 100 ∣ before + 1
    · have quarter : 4 ∣ before + 1 := Nat.dvd_trans (by decide) century
      simp [cycle, century, quarter]
      omega
    · by_cases quarter : 4 ∣ before + 1
      · simp [cycle, century, quarter]
        omega
      · simp [cycle, century, quarter]
        omega

theorem daysBeforeMonth_succ (year : ℕ) {month : ℕ} (positive : 1 ≤ month) :
    daysBeforeMonth year (month + 1) = daysBeforeMonth year month + monthLength year month := by
  obtain ⟨month, rfl⟩ : ∃ before, month = before + 1 := ⟨month - 1, by omega⟩
  rfl

theorem daysBeforeMonth_year (year : ℕ) : daysBeforeMonth year 13 = yearLength year := by
  have months : daysBeforeMonth year 13 = 0 + monthLength year 1 + monthLength year 2 +
      monthLength year 3 + monthLength year 4 + monthLength year 5 + monthLength year 6 +
      monthLength year 7 + monthLength year 8 + monthLength year 9 + monthLength year 10 +
      monthLength year 11 + monthLength year 12 := rfl
  rw [months]
  by_cases leap : IsLeap year
  · simp [monthLength, yearLength, leap]
  · simp [monthLength, yearLength, leap]

theorem daysBeforeMonth_mono (year : ℕ) : Monotone (daysBeforeMonth year) := by
  apply monotone_nat_of_le_succ
  intro month
  cases month with
  | zero => exact le_rfl
  | succ month => exact Nat.le_add_right _ _

theorem daysBeforeYear_mono : Monotone daysBeforeYear := by
  apply monotone_nat_of_le_succ
  intro year
  cases year with
  | zero => exact le_rfl
  | succ year =>
      have grows := daysBeforeYear_succ (Nat.le_add_left 1 year)
      omega

namespace Date

variable {date other : Date}

theorem ofParts_eq_some_iff {year month day : ℕ} :
    ofParts year month day = some date ↔ date.year = year ∧ date.month = month ∧
    date.day = day := by
  rcases date with ⟨dateYear, dateMonth, dateDay, valid⟩
  unfold ofParts
  constructor
  · intro same
    split at same
    · simpa [eq_comm] using same
    · exact absurd same (by simp)
  · rintro ⟨rfl, rfl, rfl⟩
    exact dif_pos valid

theorem ofParts_of_valid {year month day : ℕ} (valid : ValidDate year month day) :
    ofParts year month day = some ⟨year, month, day, valid⟩ :=
  dif_pos valid

/-- A date is counted within its month. -/
theorem ordinal_le_month (date : Date) :
    date.ordinal ≤ daysBeforeYear date.year + daysBeforeMonth date.year (date.month + 1) := by
  rcases date.valid with ⟨_, ⟨positive, _⟩, _, within⟩
  have grows := daysBeforeMonth_succ date.year positive
  unfold ordinal
  omega

theorem ordinal_le_year (date : Date) : date.ordinal ≤ daysBeforeYear (date.year + 1) := by
  rcases date.valid with ⟨⟨positive, _⟩, ⟨_, last⟩, _⟩
  have within := ordinal_le_month date
  have months := daysBeforeMonth_mono date.year (Nat.add_le_add_right last 1)
  rw [daysBeforeMonth_year] at months
  have grows := daysBeforeYear_succ positive
  omega

theorem lt_ordinal (date : Date) :
    daysBeforeYear date.year + daysBeforeMonth date.year date.month < date.ordinal := by
  have positive := date.valid.2.2.1
  unfold ordinal
  omega

/-- An earlier date has a smaller number. -/
theorem ordinal_lt_of_parts (before : date.year < other.year ∨ date.year = other.year ∧
    (date.month < other.month ∨ date.month = other.month ∧ date.day < other.day)) :
    date.ordinal < other.ordinal := by
  have start := lt_ordinal other
  rcases before with years | ⟨sameYear, months | ⟨sameMonth, days⟩⟩
  · have within := ordinal_le_year date
    have next : date.year + 1 ≤ other.year := years
    have grows := daysBeforeYear_mono next
    omega
  · have within := ordinal_le_month date
    have next : date.month + 1 ≤ other.month := months
    have grows := daysBeforeMonth_mono date.year next
    rw [← sameYear] at start
    omega
  · unfold ordinal
    rw [sameYear, sameMonth]
    omega

theorem ordinal_lt_iff : date.ordinal < other.ordinal ↔ date.year < other.year ∨
    date.year = other.year ∧
      (date.month < other.month ∨ date.month = other.month ∧ date.day < other.day) := by
  refine ⟨fun before => ?_, ordinal_lt_of_parts⟩
  by_contra notBefore
  have parts : date = other ∨ (other.year < date.year ∨ other.year = date.year ∧
      (other.month < date.month ∨ other.month = date.month ∧ other.day < date.day)) := by
    rcases date with ⟨year, month, day, valid⟩
    rcases other with ⟨otherYear, otherMonth, otherDay, otherValid⟩
    simp only [mk.injEq]
    dsimp only at notBefore
    omega
  rcases parts with rfl | after
  · omega
  · have reversed := ordinal_lt_of_parts after
    omega

theorem eq_of_ordinal_eq (same : date.ordinal = other.ordinal) : date = other := by
  have notBefore : ¬date.ordinal < other.ordinal := by omega
  have notAfter : ¬other.ordinal < date.ordinal := by omega
  rw [ordinal_lt_iff] at notBefore notAfter
  rcases date with ⟨year, month, day, valid⟩
  rcases other with ⟨otherYear, otherMonth, otherDay, otherValid⟩
  simp only [mk.injEq]
  dsimp only at notBefore notAfter
  omega

theorem ordinal_eq_iff : date.ordinal = other.ordinal ↔
    date.year = other.year ∧ date.month = other.month ∧ date.day = other.day := by
  constructor
  · intro same
    rw [eq_of_ordinal_eq same]
    exact ⟨rfl, rfl, rfl⟩
  · rintro ⟨year, month, day⟩
    rw [ordinal, ordinal, year, month, day]

theorem ordinal_next (next : date.next = some other) : other.ordinal = date.ordinal + 1 := by
  rcases date.valid with ⟨⟨yearPositive, _⟩, ⟨monthPositive, lastMonth⟩, _, lastDay⟩
  unfold Date.next at next
  unfold ordinal
  split_ifs at next with sameMonth sameYear
  · rcases ofParts_eq_some_iff.mp next with ⟨year, month, day⟩
    rw [year, month, day]
    omega
  · rcases ofParts_eq_some_iff.mp next with ⟨year, month, day⟩
    have grows := daysBeforeMonth_succ date.year monthPositive
    rw [year, month, day]
    omega
  · rcases ofParts_eq_some_iff.mp next with ⟨year, month, day⟩
    have grows := daysBeforeYear_succ yearPositive
    have months := daysBeforeMonth_succ date.year monthPositive
    have whole := daysBeforeMonth_year date.year
    have first : daysBeforeMonth (date.year + 1) 1 = 0 := rfl
    have december : date.month = 12 := by omega
    rw [year, month, day, grows, first]
    rw [december] at months lastDay sameMonth ⊢
    rw [whole] at months
    omega

theorem ordinal_previous (previous : date.previous = some other) :
    other.ordinal + 1 = date.ordinal := by
  rcases date.valid with ⟨⟨yearPositive, _⟩, ⟨monthPositive, lastMonth⟩, firstDay, _⟩
  unfold Date.previous at previous
  unfold ordinal
  split_ifs at previous with sameMonth sameYear
  · rcases ofParts_eq_some_iff.mp previous with ⟨year, month, day⟩
    rw [year, month, day]
    omega
  · rcases ofParts_eq_some_iff.mp previous with ⟨year, month, day⟩
    have positive : 1 ≤ date.month - 1 := by omega
    have grows := daysBeforeMonth_succ date.year positive
    rw [Nat.sub_add_cancel monthPositive] at grows
    rw [year, month, day]
    omega
  · rcases ofParts_eq_some_iff.mp previous with ⟨year, month, day⟩
    have positive : 1 ≤ date.year - 1 := year ▸ other.valid.1.1
    have grows := daysBeforeYear_succ positive
    rw [Nat.sub_add_cancel yearPositive] at grows
    have months : daysBeforeMonth (date.year - 1) 13 =
        daysBeforeMonth (date.year - 1) 12 + monthLength (date.year - 1) 12 := rfl
    have whole := daysBeforeMonth_year (date.year - 1)
    have december : monthLength (date.year - 1) 12 = 31 := rfl
    have january : date.month = 1 := by omega
    have first : daysBeforeMonth date.year 1 = 0 := rfl
    rw [year, month, day, january, first]
    omega

theorem ordinal_pos (date : Date) : 1 ≤ date.ordinal := by
  have positive := lt_ordinal date
  omega

/-- The number of the last date. -/
theorem ordinal_le (date : Date) : date.ordinal ≤ 3652059 := by
  have within := ordinal_le_year date
  have last : date.year + 1 ≤ 10000 := Nat.succ_le_succ date.valid.1.2
  have years := daysBeforeYear_mono last
  have total : daysBeforeYear 10000 = 3652059 := by decide
  omega

/-- Only the first date has none before it. -/
theorem ordinal_of_previous_none (none : date.previous = none) : date.ordinal = 1 := by
  rcases date.valid with ⟨⟨yearPositive, lastYear⟩, ⟨monthPositive, lastMonth⟩, firstDay, lastDay⟩
  unfold Date.previous at none
  split_ifs at none with sameMonth sameYear
  · have valid : ValidDate date.year date.month (date.day - 1) :=
      ⟨⟨yearPositive, lastYear⟩, ⟨monthPositive, lastMonth⟩, by omega, by omega⟩
    rw [ofParts_of_valid valid] at none
    exact absurd none (by simp)
  · have long := monthLength_pos date.year (date.month - 1)
    have valid : ValidDate date.year (date.month - 1) (monthLength date.year (date.month - 1)) :=
      ⟨⟨yearPositive, lastYear⟩, ⟨by omega, by omega⟩, by omega, le_rfl⟩
    rw [ofParts_of_valid valid] at none
    exact absurd none (by simp)
  · have firstYear : date.year = 1 := by
      by_contra later
      have valid : ValidDate (date.year - 1) 12 31 :=
        ⟨⟨by omega, by omega⟩, by decide, by decide, le_rfl⟩
      rw [ofParts_of_valid valid] at none
      exact absurd none (by simp)
    have january : date.month = 1 := by omega
    have first : date.day = 1 := by omega
    rw [ordinal, firstYear, january, first]
    rfl

/-- Only the last date has none after it. -/
theorem ordinal_of_next_none (none : date.next = none) : date.ordinal = 3652059 := by
  rcases date.valid with ⟨⟨yearPositive, lastYear⟩, ⟨monthPositive, lastMonth⟩, firstDay, lastDay⟩
  unfold Date.next at none
  split_ifs at none with sameMonth sameYear
  · have valid : ValidDate date.year date.month (date.day + 1) :=
      ⟨⟨yearPositive, lastYear⟩, ⟨monthPositive, lastMonth⟩, by omega, by omega⟩
    rw [ofParts_of_valid valid] at none
    exact absurd none (by simp)
  · have long := monthLength_pos date.year (date.month + 1)
    have valid : ValidDate date.year (date.month + 1) 1 :=
      ⟨⟨yearPositive, lastYear⟩, ⟨by omega, by omega⟩, le_rfl, by omega⟩
    rw [ofParts_of_valid valid] at none
    exact absurd none (by simp)
  · have finalYear : date.year = 9999 := by
      by_contra earlier
      have long := monthLength_pos (date.year + 1) 1
      have valid : ValidDate (date.year + 1) 1 1 :=
        ⟨⟨by omega, by omega⟩, by decide, le_rfl, by omega⟩
      rw [ofParts_of_valid valid] at none
      exact absurd none (by simp)
    have december : date.month = 12 := by omega
    have length : monthLength 9999 12 = 31 := rfl
    rw [finalYear, december] at sameMonth lastDay
    have last : date.day = 31 := by omega
    rw [ordinal, finalYear, december, last]
    decide

end Date

/-- A time of day. -/
structure Time where
  hour : ℕ
  minute : ℕ
  second : ℕ
  microsecond : ℕ
  valid : hour < 24 ∧ minute < 60 ∧ second < 60 ∧ microsecond < 1000000
  deriving DecidableEq, Repr

/-- The time with these parts, if there is one. -/
def Time.ofParts (hour minute second microsecond : ℕ) : Option Time :=
  if valid : hour < 24 ∧ minute < 60 ∧ second < 60 ∧ microsecond < 1000000 then
    some ⟨hour, minute, second, microsecond, valid⟩
  else none

/-- The whole seconds since midnight. -/
def Time.seconds (time : Time) : ℕ := (time.hour * 60 + time.minute) * 60 + time.second

/-- The time with other whole seconds since midnight. -/
def Time.withSeconds (time : Time) (seconds : ℕ) : Time where
  hour := seconds / 3600 % 24
  minute := seconds / 60 % 60
  second := seconds % 60
  microsecond := time.microsecond
  valid := by
    have small := time.valid.2.2.2
    omega

namespace Time

variable {time other : Time}

theorem seconds_lt (time : Time) : time.seconds < 86400 := by
  rcases time.valid with ⟨hour, minute, second, _⟩
  unfold seconds
  omega

theorem withSeconds_seconds {seconds : ℕ} (within : seconds < 86400) :
    (time.withSeconds seconds).seconds = seconds := by
  unfold Time.seconds withSeconds
  dsimp only
  omega

theorem ofParts_eq_some_iff {hour minute second microsecond : ℕ} :
    ofParts hour minute second microsecond = some time ↔ time.hour = hour ∧
      time.minute = minute ∧ time.second = second ∧ time.microsecond = microsecond := by
  rcases time with ⟨timeHour, timeMinute, timeSecond, timeMicrosecond, valid⟩
  unfold ofParts
  constructor
  · intro same
    split at same
    · simpa [eq_comm] using same
    · exact absurd same (by simp)
  · rintro ⟨rfl, rfl, rfl, rfl⟩
    exact dif_pos valid

/-- Within a day, the seconds tell the hour, the minute and the second. -/
theorem seconds_lt_iff : time.seconds < other.seconds ↔ time.hour < other.hour ∨
    time.hour = other.hour ∧ (time.minute < other.minute ∨
      time.minute = other.minute ∧ time.second < other.second) := by
  rcases time.valid with ⟨hour, minute, second, _⟩
  rcases other.valid with ⟨otherHour, otherMinute, otherSecond, _⟩
  unfold seconds
  omega

end Time

structure DateTime where
  date : Date
  time : Time
  deriving DecidableEq, Repr

namespace DateTime

/-- The whole seconds up to a date and time. -/
def seconds (stamp : DateTime) : ℤ := stamp.date.ordinal * 86400 + stamp.time.seconds

/-- The microseconds up to a date and time. -/
def instant (stamp : DateTime) : ℤ := stamp.seconds * 1000000 + stamp.time.microsecond

/-- The date and time `offset` seconds, less than a day, before another one, unless the
calendar does not have it. -/
def minus (stamp : DateTime) (offset : ℤ) : Option DateTime :=
  let seconds := stamp.time.seconds - offset
  let date :=
    if seconds < 0 then stamp.date.previous
    else if seconds < 86400 then some stamp.date
    else stamp.date.next
  date.map fun date => ⟨date, stamp.time.withSeconds (seconds % 86400).toNat⟩

variable {stamp other : DateTime} {offset : ℤ}

theorem instant_minus (small : -86400 < offset ∧ offset < 86400)
    (shifted : stamp.minus offset = some other) :
    other.instant = stamp.instant - offset * 1000000 := by
  have within := stamp.time.seconds_lt
  rcases Option.map_eq_some_iff.mp shifted with ⟨date, found, rfl⟩
  have seconds : (stamp.time.withSeconds ((stamp.time.seconds - offset) % 86400).toNat).seconds =
      ((stamp.time.seconds - offset) % 86400).toNat := Time.withSeconds_seconds (by omega)
  have micro : (stamp.time.withSeconds ((stamp.time.seconds - offset) % 86400).toNat).microsecond =
      stamp.time.microsecond := rfl
  unfold instant DateTime.seconds
  dsimp only
  rw [seconds, micro]
  split_ifs at found with before same
  · have day := Date.ordinal_previous found
    omega
  · cases found
    omega
  · have day := Date.ordinal_next found
    omega

/-- The calendar does not have an instant that is not found. -/
theorem instant_ne_of_minus_none (small : -86400 < offset ∧ offset < 86400)
    (none : stamp.minus offset = none) (other : DateTime) :
    other.instant ≠ stamp.instant - offset * 1000000 := by
  have within := stamp.time.seconds_lt
  have micro := stamp.time.valid.2.2.2
  have otherWithin := other.time.seconds_lt
  have otherMicro := other.time.valid.2.2.2
  have first := other.date.ordinal_pos
  have last := other.date.ordinal_le
  have missing := Option.map_eq_none_iff.mp none
  unfold instant DateTime.seconds
  split_ifs at missing with before same
  · have day := Date.ordinal_of_previous_none missing
    omega
  · have day := Date.ordinal_of_next_none missing
    omega

/-- The calendar has the instant. -/
def InCalendar (instant : ℤ) : Prop := ∃ stamp : DateTime, stamp.instant = instant

theorem minus_isSome_iff (small : -86400 < offset ∧ offset < 86400) :
    (∃ other, stamp.minus offset = some other) ↔
      InCalendar (stamp.instant - offset * 1000000) := by
  constructor
  · rintro ⟨other, shifted⟩
    exact ⟨other, instant_minus small shifted⟩
  · rintro ⟨other, same⟩
    cases shifted : stamp.minus offset with
    | some found => exact ⟨found, rfl⟩
    | none => exact absurd same (instant_ne_of_minus_none small shifted other)

theorem seconds_lt_iff : stamp.seconds < other.seconds ↔
    stamp.date.ordinal < other.date.ordinal ∨
      stamp.date.ordinal = other.date.ordinal ∧ stamp.time.seconds < other.time.seconds := by
  have within := stamp.time.seconds_lt
  have otherWithin := other.time.seconds_lt
  unfold DateTime.seconds
  omega

theorem instant_lt_iff : stamp.instant < other.instant ↔ stamp.seconds < other.seconds ∨
    stamp.seconds = other.seconds ∧ stamp.time.microsecond < other.time.microsecond := by
  have micro := stamp.time.valid.2.2.2
  have otherMicro := other.time.valid.2.2.2
  unfold instant
  omega

theorem eq_of_instant_eq (same : stamp.instant = other.instant) : stamp = other := by
  have seconds : stamp.seconds = other.seconds ∧
      stamp.time.microsecond = other.time.microsecond := by
    have micro := stamp.time.valid.2.2.2
    have otherMicro := other.time.valid.2.2.2
    unfold instant at same
    omega
  have parts : stamp.date.ordinal = other.date.ordinal ∧
      stamp.time.seconds = other.time.seconds := by
    have within := stamp.time.seconds_lt
    have otherWithin := other.time.seconds_lt
    unfold DateTime.seconds at seconds
    omega
  have date := Date.eq_of_ordinal_eq parts.1
  rcases stamp with ⟨_, hour, minute, second, microsecond, valid⟩
  rcases other with ⟨_, otherHour, otherMinute, otherSecond, otherMicrosecond, otherValid⟩
  rcases parts with ⟨_, sameSeconds⟩
  simp only [Time.seconds] at sameSeconds
  simp only [mk.injEq, Time.mk.injEq]
  refine ⟨date, ?_, ?_, ?_, seconds.2⟩
  · omega
  · omega
  · omega

theorem minus_zero (stamp : DateTime) : stamp.minus 0 = some stamp := by
  have small : -86400 < (0 : ℤ) ∧ (0 : ℤ) < 86400 := by decide
  cases shifted : stamp.minus 0 with
  | none => exact absurd (by simp) (instant_ne_of_minus_none small shifted stamp)
  | some other =>
      have same := instant_minus small shifted
      have equal : other.instant = stamp.instant := by omega
      rw [eq_of_instant_eq equal]

end DateTime

end FivegLab.Calendar
