import FivegLab.LogParser.Events

/-!
# The shapes of timestamps

What the timestamp patterns match, as texts of digits and separators.
-/

namespace FivegLab.LogParser

open Calendar Regex

variable [TextTables]

/-- As many digits as the text is long. -/
structure IsDigits (count : ℕ) (text : List Char) : Prop where
  length : text.length = count
  digits : ∀ c ∈ text, isDecimal c

/-- A year, a month and a day. -/
def IsDate (text : List Char) : Prop :=
  ∃ year month day, text = year ++ '-' :: (month ++ '-' :: day) ∧ IsDigits 4 year ∧
    IsDigits 2 month ∧ IsDigits 2 day

/-- An hour, a minute and a second. -/
def IsClock (text : List Char) : Prop :=
  ∃ hour minute second, text = hour ++ ':' :: (minute ++ ':' :: second) ∧ IsDigits 2 hour ∧
    IsDigits 2 minute ∧ IsDigits 2 second

/-- Nothing, or a point and digits. -/
def IsFraction (text : List Char) : Prop :=
  text = [] ∨ ∃ fractional, text = '.' :: fractional ∧ fractional ≠ [] ∧
    ∀ c ∈ fractional, isDecimal c

/-- A sign, hours and minutes. -/
def IsNumericOffset (text : List Char) : Prop :=
  ∃ sign hours minutes, text = sign :: (hours ++ ':' :: minutes) ∧ (sign = '+' ∨ sign = '-') ∧
    IsDigits 2 hours ∧ IsDigits 2 minutes

/-- `Z`, or a numeric offset. -/
def IsZone (text : List Char) : Prop := text = ['Z'] ∨ IsNumericOffset text

variable {before : Option Char} {taken rest : List Char}

theorem matches_digits_iff {count : ℕ} :
    (digits count).Matches before taken rest ↔ IsDigits count taken := by
  rw [digits, matches_repeated_iff]
  constructor
  · rintro ⟨length, decimals⟩
    exact ⟨length, decimals⟩
  · rintro ⟨length, decimals⟩
    exact ⟨length, decimals⟩

omit [TextTables] in
theorem matches_character_iff {c : Char} :
    (character c).Matches before taken rest ↔ taken = [c] := by
  simp [character]

theorem matches_fraction_iff :
    fraction.Matches before taken rest ↔ IsFraction taken := by
  rw [fraction, Regex.optional, matches_either_iff, matches_sequence_iff,
    matches_nothing_iff, or_comm]
  apply or_congr_right
  constructor
  · rintro ⟨_, more, rfl, point, fractional⟩
    rw [matches_character_iff] at point
    rw [matches_some_iff] at fractional
    rw [point]
    exact ⟨more, rfl, fractional⟩
  · rintro ⟨fractional, rfl, digits⟩
    exact ⟨['.'], fractional, rfl, matches_character_iff.mpr rfl, matches_some_iff.mpr digits⟩

theorem matches_numericOffset_iff :
    numericOffset.Matches before taken rest ↔ IsNumericOffset taken := by
  simp only [numericOffset, all, matches_sequence_iff, matches_one_iff, matches_digits_iff,
    matches_character_iff]
  constructor
  · rintro ⟨_, _, rfl, ⟨sign, rfl, signed⟩, hours, _, rfl, hour, _, minutes, rfl, rfl, minute⟩
    exact ⟨sign, hours, minutes, rfl, by simpa using signed, hour, minute⟩
  · rintro ⟨sign, hours, minutes, rfl, signed, hour, minute⟩
    exact ⟨[sign], _, rfl, ⟨sign, rfl, by simpa using signed⟩, hours, _, rfl, hour, [':'], minutes,
      rfl, rfl, minute⟩

theorem matches_dated_iff {separator : Char} {tail : Regex} :
    (dated separator tail).Matches before taken rest ↔ ∃ date more,
      taken = date ++ separator :: more ∧ IsDate date ∧
        tail.Matches (.some separator) more rest := by
  simp only [dated, all, matches_sequence_iff, matches_digits_iff, matches_character_iff]
  constructor
  · rintro ⟨year, _, rfl, years, _, _, rfl, rfl, month, _, rfl, months, _, _, rfl, rfl, day, _, rfl,
      days, _, more, rfl, rfl, matched⟩
    exact ⟨_, more, by simp, ⟨year, month, day, rfl, years, months, days⟩, matched⟩
  · rintro ⟨_, more, rfl, ⟨year, month, day, rfl, years, months, days⟩, matched⟩
    exact ⟨year, _, List.append_assoc _ _ _, years, ['-'], _, rfl, rfl, month, _,
      by simp, months, ['-'], _, rfl, rfl, day, _, rfl, days, [separator], more, rfl, rfl, matched⟩

theorem matches_clock_nil_iff : (clock []).Matches before taken rest ↔ ∃ time fractional,
    taken = time ++ fractional ∧ IsClock time ∧ IsFraction fractional := by
  simp only [clock, all, List.append_nil, matches_sequence_iff, matches_digits_iff,
    matches_character_iff, matches_fraction_iff]
  constructor
  · rintro ⟨hour, _, rfl, hours, _, _, rfl, rfl, minute, _, rfl, minutes, _, _, rfl, rfl, second,
      fractional, rfl, seconds, isFraction⟩
    exact ⟨_, fractional, by simp, ⟨hour, minute, second, rfl, hours, minutes, seconds⟩,
      isFraction⟩
  · rintro ⟨_, fractional, rfl, ⟨hour, minute, second, rfl, hours, minutes, seconds⟩, isFraction⟩
    exact ⟨hour, _, List.append_assoc _ _ _, hours, [':'], _, rfl, rfl, minute, _, by simp, minutes,
      [':'], _, rfl, rfl, second, fractional, rfl, seconds, isFraction⟩

theorem matches_zone_iff : (either (character 'Z') numericOffset).Matches before taken rest ↔
    IsZone taken := by
  rw [matches_either_iff, matches_character_iff, matches_numericOffset_iff]
  rfl

theorem matches_zoned_iff :
    (clock [either (character 'Z') numericOffset]).Matches before taken rest ↔
      ∃ time fractional zone, taken = time ++ (fractional ++ zone) ∧ IsClock time ∧
        IsFraction fractional ∧ IsZone zone := by
  simp only [clock, all, List.cons_append, List.nil_append, matches_sequence_iff,
    matches_digits_iff, matches_character_iff, matches_fraction_iff, matches_zone_iff]
  constructor
  · rintro ⟨hour, _, rfl, hours, _, _, rfl, rfl, minute, _, rfl, minutes, _, _, rfl, rfl, second,
      _, rfl, seconds, fractional, zone, rfl, isFraction, isZone⟩
    exact ⟨_, fractional, zone, by simp, ⟨hour, minute, second, rfl, hours, minutes, seconds⟩,
      isFraction, isZone⟩
  · rintro ⟨_, fractional, zone, rfl, ⟨hour, minute, second, rfl, hours, minutes, seconds⟩,
      isFraction, isZone⟩
    exact ⟨hour, _, List.append_assoc _ _ _, hours, [':'], _, rfl, rfl, minute, _, by simp, minutes,
      [':'], _, rfl, rfl, second, _, rfl, seconds, fractional, zone, rfl, isFraction, isZone⟩

theorem matches_rfc3339_iff : rfc3339.regex.Matches before taken rest ↔
    ∃ date time fractional zone, taken = date ++ 'T' :: (time ++ (fractional ++ zone)) ∧
      IsDate date ∧ IsClock time ∧ IsFraction fractional ∧ IsZone zone := by
  simp only [rfc3339, matches_dated_iff, matches_zoned_iff]
  constructor
  · rintro ⟨date, _, rfl, isDate, time, fractional, zone, rfl, shapes⟩
    exact ⟨date, time, fractional, zone, rfl, isDate, shapes⟩
  · rintro ⟨date, time, fractional, zone, rfl, isDate, shapes⟩
    exact ⟨date, _, rfl, isDate, time, fractional, zone, rfl, shapes⟩

theorem matches_spaced_iff : spaced.regex.Matches before taken rest ↔
    ∃ date time fractional, taken = date ++ ' ' :: (time ++ fractional) ∧ IsDate date ∧
      IsClock time ∧ IsFraction fractional := by
  simp only [spaced, matches_dated_iff, matches_clock_nil_iff]
  constructor
  · rintro ⟨date, _, rfl, isDate, time, fractional, rfl, shapes⟩
    exact ⟨date, time, fractional, rfl, isDate, shapes⟩
  · rintro ⟨date, time, fractional, rfl, isDate, shapes⟩
    exact ⟨date, _, rfl, isDate, time, fractional, rfl, shapes⟩

theorem matches_bracketed_iff : bracketed.regex.Matches before taken rest ↔
    ∃ value, taken = '[' :: (value ++ [']']) ∧ spaced.regex.Matches before value rest := by
  simp only [bracketed, all, matches_sequence_iff, matches_character_iff]
  constructor
  · rintro ⟨_, _, rfl, rfl, value, _, rfl, matched, rfl⟩
    exact ⟨value, rfl, matches_spaced_iff.mpr (matches_spaced_iff.mp matched)⟩
  · rintro ⟨value, rfl, matched⟩
    exact ⟨['['], _, rfl, rfl, value, [']'], rfl,
      matches_spaced_iff.mpr (matches_spaced_iff.mp matched), rfl⟩

theorem matches_native_iff : native.regex.Matches before taken rest ↔
    ∃ month day time fractional, taken = month ++ '/' :: (day ++ ' ' :: (time ++ fractional)) ∧
      IsDigits 2 month ∧ IsDigits 2 day ∧ IsClock time ∧ IsFraction fractional := by
  simp only [native, all, matches_sequence_iff, matches_digits_iff, matches_character_iff,
    matches_clock_nil_iff]
  constructor
  · rintro ⟨month, _, rfl, months, _, _, rfl, rfl, day, _, rfl, days, _, _, rfl, rfl, time,
      fractional, rfl, shapes⟩
    exact ⟨month, day, time, fractional, rfl, months, days, shapes⟩
  · rintro ⟨month, day, time, fractional, rfl, months, days, shapes⟩
    exact ⟨month, _, rfl, months, ['/'], _, rfl, rfl, day, _, rfl, days, [' '], _, rfl, rfl, time,
      fractional, rfl, shapes⟩

end FivegLab.LogParser
