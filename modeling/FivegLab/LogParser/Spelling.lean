import FivegLab.LogParser.Normalization

/-!
# Spellings of an instant

How the logs write an instant, and that `parse_timestamp` reads it back from a
line in which nothing else is a date.  The native spelling does not write the
year, and is read back in its own year only.
-/

namespace FivegLab.LogParser

open Calendar DateTime
open Regex hiding some

/-- An offset from UTC, as RFC 3339 writes it. -/
structure Offset where
  negative : Bool
  hours : ℕ
  minutes : ℕ
  valid : hours < 24 ∧ minutes < 60

namespace Offset

def seconds (offset : Offset) : ℤ :=
  if offset.negative then -((offset.hours * 60 + offset.minutes) * 60)
  else (offset.hours * 60 + offset.minutes) * 60

def text (offset : Offset) : List Char :=
  (if offset.negative then '-' else '+') ::
    (padded 2 offset.hours ++ ':' :: padded 2 offset.minutes)

end Offset

/-- A supported spelling, with the number of digits of its fraction.  RFC 3339 may
write the nanoseconds below a microsecond, and has an offset or `Z`. -/
inductive Spelling
  | rfc3339 (digits : Fin 10) (below : Fin 1000) (zone : Option Offset)
  | spaced (digits : Fin 7)
  | bracketed (digits : Fin 7)
  | native (digits : Fin 7)

namespace Spelling

/-- The printed digits of the fraction. -/
def digits : Spelling → ℕ
  | rfc3339 digits _ _ => digits
  | spaced digits => digits
  | bracketed digits => digits
  | native digits => digits

/-- The offset from UTC in seconds. -/
def offset : Spelling → ℤ
  | rfc3339 _ _ (some zone) => zone.seconds
  | _ => 0

def isNative : Spelling → Bool
  | native _ => true
  | _ => false

/-- The first digits of the fraction, after a point. -/
def printedFraction (digits below microsecond : ℕ) : List Char :=
  if digits = 0 then [] else '.' :: (padded 6 microsecond ++ padded 3 below).take digits

/-- A month, a day and a time to the second, in front of a text. -/
def nativeText (stamp : DateTime) (tail : List Char) : List Char :=
  padded 2 stamp.date.month ++ ('/' :: (padded 2 stamp.date.day ++ (' ' ::
    (padded 2 stamp.time.hour ++ (':' :: (padded 2 stamp.time.minute ++ (':' ::
      (padded 2 stamp.time.second ++ tail))))))))

/-- How a date and time, at the offset of the spelling, is written. -/
def text (stamp : DateTime) : Spelling → List Char
  | rfc3339 digits below zone =>
      spelled stamp 'T' (printedFraction digits below stamp.time.microsecond ++
        (zone.map Offset.text).getD ['Z'])
  | spaced digits => spelled stamp ' ' (printedFraction digits 0 stamp.time.microsecond)
  | bracketed digits =>
      '[' :: (spelled stamp ' ' (printedFraction digits 0 stamp.time.microsecond) ++ [']'])
  | native digits => nativeText stamp (printedFraction digits 0 stamp.time.microsecond)

end Spelling

/-- An instant in microseconds, cut to a number of digits of its second. -/
def truncated (digits : ℕ) (instant : ℤ) : ℤ := instant - instant % 10 ^ (6 - digits)

/-- A part of a text is its only date: all that the patterns match lies within it. -/
def OnlyDate [TextTables] (front part rest : List Char) : Prop :=
  ∀ pattern ∈ timestampPatterns, pattern.regex.OnlyWithin front part rest

section

variable {stamp : DateTime}

/-- The microseconds that some digits of the fraction write. -/
def cutMicrosecond (digits microsecond : ℕ) : ℕ :=
  microsecond / 10 ^ (6 - digits) * 10 ^ (6 - digits)

theorem cutMicrosecond_lt {digits microsecond : ℕ} (small : microsecond < 1000000) :
    cutMicrosecond digits microsecond < 1000000 :=
  lt_of_le_of_lt (Nat.div_mul_le_self _ _) small

/-- The date and time with its fraction cut. -/
def cut (digits : ℕ) (stamp : DateTime) : DateTime :=
  ⟨stamp.date, stamp.time.withMicrosecond (cutMicrosecond digits stamp.time.microsecond)
    (cutMicrosecond_lt stamp.time.valid.2.2.2)⟩

theorem instant_cut (digits : ℕ) (stamp : DateTime) (offset : ℤ) :
    (cut digits stamp).instant - offset * 1000000 =
      truncated digits (stamp.instant - offset * 1000000) := by
  have divides : (10 : ℤ) ^ (6 - digits) ∣ 1000000 := by
    have power : (1000000 : ℤ) = 10 ^ 6 := by norm_num
    rw [power]
    exact pow_dvd_pow 10 (Nat.sub_le 6 digits)
  have whole : stamp.instant - offset * 1000000 =
      (stamp.time.microsecond : ℤ) + 1000000 * (stamp.seconds - offset) := by
    unfold instant
    omega
  have remainder : (stamp.instant - offset * 1000000) % 10 ^ (6 - digits) =
      ((stamp.time.microsecond % 10 ^ (6 - digits) : ℕ) : ℤ) := by
    rw [whole, Int.add_emod, Int.emod_eq_zero_of_dvd (divides.mul_right _), add_zero, Int.emod_emod]
    push_cast
    rfl
  have parts := Nat.div_add_mod' stamp.time.microsecond (10 ^ (6 - digits))
  have sameSeconds : (cut digits stamp).seconds = stamp.seconds := rfl
  have micro : (cut digits stamp).time.microsecond =
      cutMicrosecond digits stamp.time.microsecond := rfl
  rw [truncated, remainder, whole]
  unfold instant
  rw [sameSeconds, micro]
  unfold cutMicrosecond
  omega

theorem readMicroseconds_take {digits below microsecond : ℕ} (positive : digits ≠ 0)
    (atMost : digits ≤ 6) (small : microsecond < 1000000) :
    readMicroseconds ((padded 6 microsecond ++ padded 3 below).take digits) =
      some (cutMicrosecond digits microsecond) := by
  obtain ⟨more, six⟩ : ∃ more, 6 = digits + more := ⟨6 - digits, by omega⟩
  have printed : (padded 6 microsecond ++ padded 3 below).take digits =
      padded digits (microsecond / 10 ^ more) := by
    rw [six, padded_add, List.append_assoc]
    simp
  have nonempty : padded digits (microsecond / 10 ^ more) ≠ [] := by
    apply List.ne_nil_of_length_pos
    rw [length_padded]
    omega
  have quotient : microsecond / 10 ^ more < 10 ^ digits := by
    apply Nat.div_lt_of_lt_mul
    rw [← pow_add, Nat.add_comm more digits, ← six]
    exact small
  have short : (padded digits (microsecond / 10 ^ more)).take 6 =
      padded digits (microsecond / 10 ^ more) := by
    apply List.take_of_length_le
    rw [length_padded]
    exact atMost
  have left : 6 - digits = more := by omega
  rw [printed, readMicroseconds, if_neg nonempty, short, readDigits_padded, length_padded,
    Nat.mod_eq_of_lt quotient, left, cutMicrosecond, left]
  rfl

theorem cutMicrosecond_zero {microsecond : ℕ} (small : microsecond < 1000000) :
    cutMicrosecond 0 microsecond = 0 := by
  unfold cutMicrosecond
  omega

theorem cutMicrosecond_min (digits microsecond : ℕ) :
    cutMicrosecond (min digits 6) microsecond = cutMicrosecond digits microsecond := by
  have same : 6 - min digits 6 = 6 - digits := by omega
  rw [cutMicrosecond, cutMicrosecond, same]

open Spelling

theorem printedFraction_take (digits below microsecond : ℕ) :
    (printedFraction digits below microsecond).take 7 =
      printedFraction (min digits 6) below microsecond := by
  unfold printedFraction
  by_cases none : digits = 0
  · simp [none]
  · have some : min digits 6 ≠ 0 := by omega
    rw [if_neg none, if_neg some, List.take_succ_cons, List.take_take, Nat.min_comm]

theorem isAsciiDigit_fraction {digits below microsecond : ℕ} {c : Char}
    (mem : c ∈ (padded 6 microsecond ++ padded 3 below).take digits) : isAsciiDigit c := by
  rcases List.mem_append.mp (List.mem_of_mem_take mem) with mem | mem
  · exact isAsciiDigit_padded mem
  · exact isAsciiDigit_padded mem

/-- A fraction is read up to the offset after it. -/
theorem readFraction_printed {digits below microsecond : ℕ} {zone : List Char}
    (atMost : digits ≤ 6) (small : microsecond < 1000000) (plain : zone.head? ≠ some '.')
    (ends : ∀ c ∈ zone.head?, isAsciiDigit c = false) :
    readFraction (printedFraction digits below microsecond ++ zone) =
      some (cutMicrosecond digits microsecond, zone) := by
  unfold printedFraction
  by_cases none : digits = 0
  · rw [if_pos none, List.nil_append, readFraction_of_head plain, none, cutMicrosecond_zero small]
  · rw [if_neg none, List.cons_append, readFraction_digits (fun c => isAsciiDigit_fraction) ends,
      readMicroseconds_take none atMost small]
    rfl

/-- What the spellings with a full date read. -/
theorem fromisoformat_fraction {separator : Char} {digits below : ℕ} {zone : List Char}
    {offset : Option ℤ} (atMost : digits ≤ 6) (plain : zone.head? ≠ some '.')
    (ends : ∀ c ∈ zone.head?, isAsciiDigit c = false) (shift : readZone zone = some offset) :
    fromisoformat (spelled stamp separator
      (printedFraction digits below stamp.time.microsecond ++ zone)) =
        some ⟨cut digits stamp, offset⟩ :=
  fromisoformat_spelled (cutMicrosecond_lt stamp.time.valid.2.2.2)
    (readFraction_printed atMost stamp.time.valid.2.2.2 plain ends) shift

theorem readZone_text (offset : Offset) : readZone offset.text = some (some offset.seconds) := by
  rcases offset with ⟨negative, hours, minutes, hour, minute⟩
  have first : readNumber 2 (padded 2 hours ++ ':' :: padded 2 minutes) =
      some (hours, ':' :: padded 2 minutes) := readNumber_padded (by omega) _
  have second : readNumber 2 (padded 2 minutes) = some (minutes, []) := by
    have read : readNumber 2 (padded 2 minutes ++ []) = some (minutes, []) :=
      readNumber_padded (by omega) []
    rwa [List.append_nil] at read
  have small : ¬(([] : List Char) ≠ [] ∨ 86400 ≤ (hours * 60 + minutes) * 60) := by
    simp
    omega
  unfold Offset.text Offset.seconds readZone readOffset
  rw [if_neg (by simp)]
  cases negative with
  | false =>
      simp only [Bool.false_eq_true, if_false, List.head?_cons, Option.map_some, List.tail_cons]
      dsimp only [bind, Option.bind]
      rw [first]
      dsimp only
      rw [expect_cons]
      dsimp only
      rw [second]
      dsimp only
      rw [if_neg small]
      simp
  | true =>
      simp only [if_true, List.head?_cons, Option.map_some, List.tail_cons]
      dsimp only [bind, Option.bind]
      rw [first]
      dsimp only
      rw [expect_cons]
      dsimp only
      rw [second]
      dsimp only
      rw [if_neg small]
      simp

variable [TextTables]

theorem isDigits_padded (width number : ℕ) : IsDigits width (padded width number) :=
  ⟨length_padded width number, fun _ mem => isDecimal_of_ascii (isAsciiDigit_padded mem)⟩

theorem isFraction_printed (digits below microsecond : ℕ) :
    IsFraction (printedFraction digits below microsecond) := by
  unfold printedFraction
  by_cases none : digits = 0
  · exact .inl (if_pos none)
  · rw [if_neg none]
    refine .inr ⟨_, rfl, ?_, fun c mem => isDecimal_of_ascii (isAsciiDigit_fraction mem)⟩
    apply List.ne_nil_of_length_pos
    rw [List.length_take, List.length_append, length_padded]
    omega

/-- The time of day of a spelling. -/
def clockText (stamp : DateTime) : List Char :=
  padded 2 stamp.time.hour ++ (':' :: (padded 2 stamp.time.minute ++ (':' ::
    padded 2 stamp.time.second)))

def dateText (stamp : DateTime) : List Char :=
  padded 4 stamp.date.year ++ ('-' :: (padded 2 stamp.date.month ++ ('-' ::
    padded 2 stamp.date.day)))

omit [TextTables] in
theorem spelled_eq (stamp : DateTime) (separator : Char) (tail : List Char) :
    spelled stamp separator tail = dateText stamp ++ separator :: (clockText stamp ++ tail) := by
  simp [spelled, dateText, clockText]

theorem isDate_dateText (stamp : DateTime) : IsDate (dateText stamp) :=
  ⟨_, _, _, rfl, isDigits_padded _ _, isDigits_padded _ _, isDigits_padded _ _⟩

theorem isClock_clockText (stamp : DateTime) : IsClock (clockText stamp) :=
  ⟨_, _, _, rfl, isDigits_padded _ _, isDigits_padded _ _, isDigits_padded _ _⟩

theorem isZone_text (zone : Option Offset) : IsZone ((zone.map Offset.text).getD ['Z']) := by
  cases zone with
  | none => exact .inl rfl
  | some offset =>
      refine .inr ⟨_, _, _, rfl, ?_, isDigits_padded _ _, isDigits_padded _ _⟩
      cases offset.negative with
      | false => exact .inl rfl
      | true => exact .inr rfl

omit [TextTables] in
theorem padded_pair (number : ℕ) :
    padded 2 number = [Nat.digitChar (number / 10 % 10), Nat.digitChar (number % 10)] := rfl

/-- The two digits of a number that the directive accepts. -/
theorem readDirective_padded {pairs : List (Char × Char)} {tens : List Char} {number : ℕ}
    (small : number < 100)
    (accepted : (Nat.digitChar (number / 10 % 10), Nat.digitChar (number % 10)) ∈ pairs ∨
      Nat.digitChar (number / 10 % 10) ∈ tens) :
    readDirective pairs tens (Nat.digitChar (number / 10 % 10)) (Nat.digitChar (number % 10)) =
      some number := by
  have read : readDigits asciiDigit
      [Nat.digitChar (number / 10 % 10), Nat.digitChar (number % 10)] = some number := by
    rw [← padded_pair, readDigits_padded, Nat.mod_eq_of_lt (by omega)]
  have same : readDigits decimal
      [Nat.digitChar (number / 10 % 10), Nat.digitChar (number % 10)] = some number := by
    have ascii : ∀ c ∈ padded 2 number, decimal c = asciiDigit c :=
      fun c mem => decimal_of_ascii (isAsciiDigit_padded mem)
    rw [padded_pair] at ascii
    simp only [List.forall_mem_cons] at ascii
    rw [← read]
    simp [readDigits, ascii.1, ascii.2.1]
  unfold readDirective
  split_ifs with pair ten
  · exact read
  · exact same
  · exact absurd accepted (by simp [pair, ten])

theorem readMonth_padded {month : ℕ} (positive : 1 ≤ month) (atMost : month ≤ 12) :
    readMonth (Nat.digitChar (month / 10 % 10)) (Nat.digitChar (month % 10)) = some month := by
  apply readDirective_padded (by omega)
  have all : ∀ month < 13, 1 ≤ month →
      (Nat.digitChar (month / 10 % 10), Nat.digitChar (month % 10)) ∈
        pairsOf '1' "012" ++ pairsOf '0' "123456789" := by decide
  exact .inl (all month (by omega) positive)

theorem readDay_padded {day : ℕ} (positive : 1 ≤ day) (atMost : day ≤ 31) :
    readDay (Nat.digitChar (day / 10 % 10)) (Nat.digitChar (day % 10)) = some day := by
  apply readDirective_padded (by omega)
  have all : ∀ day < 32, 1 ≤ day →
      (Nat.digitChar (day / 10 % 10), Nat.digitChar (day % 10)) ∈
        pairsOf '3' "01" ++ pairsOf '0' "123456789" ∨
          Nat.digitChar (day / 10 % 10) ∈ ['1', '2'] := by decide
  exact all day (by omega) positive

theorem readHour_padded {hour : ℕ} (within : hour < 24) :
    readHour (Nat.digitChar (hour / 10 % 10)) (Nat.digitChar (hour % 10)) = some hour := by
  apply readDirective_padded (by omega)
  have all : ∀ hour < 24, (Nat.digitChar (hour / 10 % 10), Nat.digitChar (hour % 10)) ∈
      pairsOf '2' "0123" ∨ Nat.digitChar (hour / 10 % 10) ∈ ['0', '1'] := by decide
  exact all hour within

omit [TextTables] in
/-- The tens of a minute or a second. -/
theorem tens_mem {number : ℕ} (within : number < 60) :
    Nat.digitChar (number / 10 % 10) ∈ ['0', '1', '2', '3', '4', '5'] := by
  have all : ∀ number < 60,
      Nat.digitChar (number / 10 % 10) ∈ ['0', '1', '2', '3', '4', '5'] := by decide
  exact all number within

omit [TextTables] in
theorem readNativeFraction_printed {digits microsecond : ℕ} (atMost : digits ≤ 6)
    (small : microsecond < 1000000) :
    readNativeFraction (printedFraction digits 0 microsecond) =
      some (cutMicrosecond digits microsecond) := by
  unfold printedFraction
  by_cases none : digits = 0
  · rw [if_pos none, none, cutMicrosecond_zero small]
    rfl
  · have short : ((padded 6 microsecond ++ padded 3 0).take digits).length ≤ 6 := by
      rw [List.length_take]
      omega
    have ascii : ((padded 6 microsecond ++ padded 3 0).take digits).all isAsciiDigit := by
      rw [List.all_eq_true]
      exact fun c mem => isAsciiDigit_fraction mem
    rw [if_neg none]
    rw [readNativeFraction, if_pos ⟨short, ascii⟩, readMicroseconds_take none atMost small]

/-- The native spelling is read in the year that it is given. -/
theorem strptime_nativeText {digits : ℕ} (year : ℕ) (atMost : digits ≤ 6) :
    strptime year (nativeText stamp (printedFraction digits 0 stamp.time.microsecond)) =
      (if 1000 ≤ year then Date.ofParts year stamp.date.month stamp.date.day else none).map
        fun date => ⟨date, (cut digits stamp).time⟩ := by
  rcases stamp.date.valid with ⟨_, ⟨monthPositive, month⟩, dayPositive, day⟩
  rcases stamp.time.valid with ⟨hour, minute, second, micro⟩
  have long := monthLength_le stamp.date.year stamp.date.month
  have time : Time.ofParts stamp.time.hour stamp.time.minute stamp.time.second
      (cutMicrosecond digits stamp.time.microsecond) = some (cut digits stamp).time :=
    Time.ofParts_eq_some_iff.mpr ⟨rfl, rfl, rfl, rfl⟩
  have minutes : readMinute (Nat.digitChar (stamp.time.minute / 10 % 10))
      (Nat.digitChar (stamp.time.minute % 10)) = some stamp.time.minute :=
    readDirective_padded (by omega) (.inr (tens_mem minute))
  have seconds : readSecond (Nat.digitChar (stamp.time.second / 10 % 10))
      (Nat.digitChar (stamp.time.second % 10)) = some stamp.time.second :=
    readDirective_padded (by omega) (.inr (tens_mem second))
  unfold nativeText
  rw [padded_pair, padded_pair, padded_pair, padded_pair, padded_pair]
  simp only [List.cons_append, List.nil_append]
  rw [strptime, readMonth_padded monthPositive month, readDay_padded dayPositive (by omega),
    readHour_padded hour, minutes, seconds, readNativeFraction_printed atMost micro]
  dsimp only [bind, Option.bind]
  rw [time]
  by_cases late : 1000 ≤ year
  · rw [if_pos late, if_pos late]
    cases Date.ofParts year stamp.date.month stamp.date.day with
    | none => rfl
    | some date => rfl
  · rw [if_neg late, if_neg late]
    rfl

omit [TextTables] in
theorem not_mem_padded {c : Char} (plain : isAsciiDigit c = false) (width number : ℕ) :
    c ∉ padded width number := by
  intro mem
  rw [isAsciiDigit_padded mem] at plain
  exact absurd plain (by decide)

omit [TextTables] in
theorem not_mem_printed {c : Char} (plain : isAsciiDigit c = false) (noPoint : c ≠ '.')
    (digits below microsecond : ℕ) : c ∉ printedFraction digits below microsecond := by
  intro mem
  unfold printedFraction at mem
  by_cases none : digits = 0
  · rw [if_pos none] at mem
    exact absurd mem List.not_mem_nil
  · rw [if_neg none] at mem
    rcases List.mem_cons.mp mem with point | mem
    · exact noPoint point
    · rw [isAsciiDigit_fraction mem] at plain
      exact absurd plain (by decide)

/-- The fraction before a zone is where the digits end. -/
theorem fraction_unique {fractional other zone otherZone rest otherRest : List Char}
    (isFraction : IsFraction fractional) (otherFraction : IsFraction other) (isZone : IsZone zone)
    (otherIsZone : IsZone otherZone)
    (same : fractional ++ (zone ++ rest) = other ++ (otherZone ++ otherRest)) :
    fractional = other := by
  have heads : ∀ zone, IsZone zone → ∃ c more, zone = c :: more ∧ isDecimal c = false ∧
      c ≠ '.' := by
    intro zone isZone
    rcases isZone with rfl | ⟨sign, _, _, rfl, signed, _⟩
    · exact ⟨'Z', [], rfl, not_isDecimal (by decide), by decide⟩
    · rcases signed with rfl | rfl
      · exact ⟨'+', _, rfl, not_isDecimal (by decide), by decide⟩
      · exact ⟨'-', _, rfl, not_isDecimal (by decide), by decide⟩
  rcases heads zone isZone with ⟨c, more, rfl, plain, noPoint⟩
  rcases heads otherZone otherIsZone with ⟨d, otherMore, rfl, otherPlain, otherNoPoint⟩
  rcases isFraction with rfl | ⟨digits, rfl, _, decimals⟩
  · rcases otherFraction with rfl | ⟨otherDigits, rfl, _, _⟩
    · rfl
    · simp only [List.nil_append, List.cons_append, List.cons.injEq] at same
      exact absurd same.1 noPoint
  · rcases otherFraction with rfl | ⟨otherDigits, rfl, _, otherDecimals⟩
    · simp only [List.nil_append, List.cons_append, List.cons.injEq] at same
      exact absurd same.1.symm otherNoPoint
    · simp only [List.cons_append, List.cons.injEq, true_and] at same
      have runs := congrArg (List.takeWhile isDecimal) same
      rw [List.takeWhile_append_of_pos decimals, List.takeWhile_append_of_pos otherDecimals,
        List.takeWhile_cons_of_neg (by simp [plain]),
        List.takeWhile_cons_of_neg (by simp [otherPlain]), List.append_nil, List.append_nil] at runs
      rw [runs]

theorem zone_unique {zone otherZone rest otherRest : List Char} (isZone : IsZone zone)
    (otherIsZone : IsZone otherZone) (same : zone ++ rest = otherZone ++ otherRest) :
    zone = otherZone := by
  have long : ∀ {zone}, IsNumericOffset zone → zone.length = 6 := by
    rintro _ ⟨_, hours, minutes, rfl, _, hour, minute⟩
    simp [hour.length, minute.length]
  have zuluFree : ∀ {zone rest otherRest}, IsNumericOffset zone →
      ['Z'] ++ rest ≠ zone ++ otherRest := by
    rintro _ rest otherRest ⟨sign, _, _, rfl, signed, _⟩ same
    rw [(List.cons.inj same).1.symm] at signed
    exact absurd signed (by decide)
  rcases isZone with rfl | numeric
  · rcases otherIsZone with rfl | otherNumeric
    · rfl
    · exact absurd same (zuluFree otherNumeric)
  · rcases otherIsZone with rfl | otherNumeric
    · exact absurd same.symm (zuluFree numeric)
    · exact (List.append_inj same ((long numeric).trans (long otherNumeric).symm)).1

theorem IsDate.length {date : List Char} (isDate : IsDate date) : date.length = 10 := by
  rcases isDate with ⟨year, month, day, rfl, years, months, days⟩
  simp [years.length, months.length, days.length]

theorem rfc3339_unique {before : Option Char} {taken other rest otherRest : List Char}
    (same : taken ++ rest = other ++ otherRest) (matched : rfc3339.regex.Matches before taken rest)
    (otherMatched : rfc3339.regex.Matches before other otherRest) : taken = other := by
  rcases matches_rfc3339_iff.mp matched with
    ⟨date, time, fractional, zone, rfl, isDate, isClock, isFraction, isZone⟩
  rcases matches_rfc3339_iff.mp otherMatched with
    ⟨otherDate, otherTime, otherFraction, otherZone, rfl, otherIsDate, otherIsClock,
      otherIsFraction, otherIsZone⟩
  simp only [List.append_assoc, List.cons_append] at same
  rcases List.append_inj same (isDate.length.trans otherIsDate.length.symm) with ⟨rfl, times⟩
  obtain ⟨rfl, ends⟩ := List.append_inj (List.cons.inj times).2
    (isClock.length.trans otherIsClock.length.symm)
  rcases fraction_unique isFraction otherIsFraction isZone otherIsZone ends with rfl
  rcases zone_unique isZone otherIsZone (List.append_cancel_left ends) with rfl
  rfl

theorem greedy_rfc3339 : rfc3339.regex.Greedy :=
  greedy_of_unique fun _ _ _ _ _ => rfc3339_unique

omit [TextTables] in
theorem single_character (c : Char) : (character c).Single := single_one _

theorem single_digits (count : ℕ) : (digits count).Single := single_repeated _ _

theorem greedy_fraction : fraction.Greedy :=
  greedy_optional (greedy_sequence (single_character '.') (greedy_some _))

theorem greedy_clock : (clock []).Greedy :=
  greedy_sequence (single_digits 2) <| greedy_sequence (single_character ':') <|
    greedy_sequence (single_digits 2) <| greedy_sequence (single_character ':') <|
      greedy_sequence (single_digits 2) greedy_fraction

theorem greedy_spaced : spaced.regex.Greedy :=
  greedy_sequence (single_digits 4) <| greedy_sequence (single_character '-') <|
    greedy_sequence (single_digits 2) <| greedy_sequence (single_character '-') <|
      greedy_sequence (single_digits 2) <| greedy_sequence (single_character ' ') greedy_clock

theorem greedy_native : native.regex.Greedy :=
  greedy_sequence (single_digits 2) <| greedy_sequence (single_character '/') <|
    greedy_sequence (single_digits 2) <| greedy_sequence (single_character ' ') greedy_clock

omit [TextTables] in
/-- What `fromisoformat` gets of a zone is read as the offset of the spelling. -/
theorem zoneText_reads (zone : Option Offset) :
    (∃ sign more, zoneText ((zone.map Offset.text).getD ['Z']) = sign :: more ∧
      (sign = '+' ∨ sign = '-')) ∧
    readZone (zoneText ((zone.map Offset.text).getD ['Z'])) =
      some (some ((zone.map Offset.seconds).getD 0)) := by
  cases zone with
  | none => exact ⟨⟨'+', _, rfl, .inl rfl⟩, by decide⟩
  | some offset =>
      have signed : (if offset.negative then '-' else '+') = '+' ∨
          (if offset.negative then '-' else '+') = '-' := by
        cases offset.negative with
        | false => exact .inl rfl
        | true => exact .inr rfl
      have other : offset.text ≠ ['Z'] := by
        intro same
        have lengths := congrArg List.length same
        simp [Offset.text] at lengths
      have same : zoneText offset.text = offset.text := if_neg other
      simp only [Option.map_some, Option.getD_some]
      rw [same]
      exact ⟨⟨_, _, rfl, signed⟩, readZone_text offset⟩

variable {front rest : List Char}

section

variable {digits below : ℕ} {zone : Option Offset} {part : List Char}

theorem matches_rfc3339 (written : part = spelled stamp 'T'
    (printedFraction digits below stamp.time.microsecond ++ (zone.map Offset.text).getD ['Z']))
    (before : Option Char) : rfc3339.regex.Matches before part rest := by
  rw [written, spelled_eq]
  exact matches_rfc3339_iff.mpr ⟨_, _, _, _, rfl, isDate_dateText stamp, isClock_clockText stamp,
    isFraction_printed _ _ _, isZone_text zone⟩

/-- What is read of the RFC 3339 spelling. -/
theorem fromisoformat_rfc3339 (written : part = spelled stamp 'T'
    (printedFraction digits below stamp.time.microsecond ++ (zone.map Offset.text).getD ['Z'])) :
    fromisoformat (offsetText part) =
      some ⟨cut digits stamp, some ((zone.map Offset.seconds).getD 0)⟩ := by
  have least : min digits 6 ≤ 6 := Nat.min_le_right _ _
  have same : cut (min digits 6) stamp = cut digits stamp := by
    unfold cut
    simp only [cutMicrosecond_min]
  rcases zoneText_reads zone with ⟨⟨sign, more, head, signed⟩, shift⟩
  rw [written, spelled_eq, offsetText_append (isDate_dateText stamp) (isClock_clockText stamp)
    (isFraction_printed _ _ _) (isZone_text zone), printedFraction_take, ← spelled_eq,
    fromisoformat_fraction least ?_ ?_ shift, same]
  · rw [head]
    rcases signed with rfl | rfl
    · simp
    · simp
  · rw [head]
    rcases signed with rfl | rfl
    · simp
      decide
    · simp
      decide

end

theorem parse_rfc3339 (year : ℕ) {digits below : ℕ} {zone : Option Offset} {part : List Char}
    (written : part = spelled stamp 'T' (printedFraction digits below stamp.time.microsecond ++
      (zone.map Offset.text).getD ['Z']))
    (only : OnlyDate front part rest) :
    parseTimestamp year (String.ofList (front ++ (part ++ rest))) =
      some ⟨cut digits stamp, some ((zone.map Offset.seconds).getD 0)⟩ := by
  have found := search_eq_some greedy_rfc3339 (matches_rfc3339 written _)
    (only _ (by simp [timestampPatterns]))
  have read : readValue year part =
      some ⟨cut digits stamp, some ((zone.map Offset.seconds).getD 0)⟩ := by
    rw [← fromisoformat_rfc3339 written, written, spelled_eq]
    exact readValue_rfc3339 (isDate_dateText stamp) (isClock_clockText stamp)
      (isFraction_printed _ _ _) (isZone_text zone)
  have group : rfc3339.group part = part := rfl
  unfold parseTimestamp timestampPatterns
  rw [parseTimestampWith, String.toList_ofList, found]
  dsimp only
  rw [group, read]

theorem rfc3339_marked {before : Option Char} {taken more : List Char}
    (matched : rfc3339.regex.Matches before taken more) : 'T' ∈ taken := by
  rcases matches_rfc3339_iff.mp matched with ⟨_, _, _, _, rfl, _⟩
  simp

theorem spaced_dashed {before : Option Char} {taken more : List Char}
    (matched : spaced.regex.Matches before taken more) : '-' ∈ taken := by
  rcases matches_spaced_iff.mp matched with ⟨_, _, _, rfl, ⟨_, _, _, rfl, _⟩, _⟩
  simp

theorem bracketed_bracket {before : Option Char} {taken more : List Char}
    (matched : bracketed.regex.Matches before taken more) : '[' ∈ taken := by
  rcases matches_bracketed_iff.mp matched with ⟨_, rfl, _⟩
  simp

/-- A match of the bare spelling is a date and a time, with nothing else in it. -/
theorem spaced_mem {before : Option Char} {taken more : List Char} {c : Char}
    (matched : spaced.regex.Matches before taken more) (mem : c ∈ taken) :
    isDecimal c ∨ c ∈ ['-', ' ', ':', '.'] := by
  rcases matches_spaced_iff.mp matched with
    ⟨date, time, fractional, rfl, isDate, isClock, isFraction⟩
  simp only [List.mem_append, List.mem_cons] at mem
  rcases mem with mem | rfl | mem | mem
  · rcases isDate.mem mem with digit | rfl
    · exact .inl digit
    · exact .inr (by decide)
  · exact .inr (by decide)
  · rcases isClock.mem mem with digit | rfl
    · exact .inl digit
    · exact .inr (by decide)
  · rcases isFraction.mem mem with digit | rfl
    · exact .inl digit
    · exact .inr (by decide)

/-- What the bare spelling reads, wherever a search of its pattern finds it. -/
theorem parse_found_spaced {year : ℕ} {digits : ℕ} {line part : List Char} (atMost : digits ≤ 6)
    (written : part = spelled stamp ' ' (printedFraction digits 0 stamp.time.microsecond))
    (unmarked : rfc3339.regex.search line = none) (found : spaced.regex.search line = some part) :
    parseTimestamp year (String.ofList line) = some (atUtc (cut digits stamp)) := by
  have isFraction := isFraction_printed digits 0 stamp.time.microsecond
  have iso : fromisoformat part = some ⟨cut digits stamp, none⟩ := by
    have read : fromisoformat (spelled stamp ' '
        (printedFraction digits 0 stamp.time.microsecond ++ [])) = some ⟨cut digits stamp, none⟩ :=
      fromisoformat_fraction atMost (by simp) (by simp) rfl
    rwa [List.append_nil, ← written] at read
  have read : readValue year part = some (atUtc (cut digits stamp)) := by
    rw [written, spelled_eq, readValue_spaced (isDate_dateText stamp) (isClock_clockText stamp)
      isFraction, ← spelled_eq, ← written, iso]
    rfl
  have group : spaced.group part = part := rfl
  unfold parseTimestamp timestampPatterns
  rw [parseTimestampWith, String.toList_ofList, unmarked]
  dsimp only
  rw [parseTimestampWith, found]
  dsimp only
  rw [group, read]

omit [TextTables] in
/-- The bare spelling has no other characters than digits and these. -/
theorem not_mem_spelled {c : Char} {digits below : ℕ} (plain : isAsciiDigit c = false)
    (other : c ∉ ['-', ' ', ':', '.']) :
    c ∉ spelled stamp ' ' (printedFraction digits below stamp.time.microsecond) := by
  simp only [List.mem_cons, not_or] at other
  simp [spelled, not_mem_padded plain, not_mem_printed plain other.2.2.2.1, other]

theorem matches_spelled {before : Option Char} {digits : ℕ} {more : List Char} :
    spaced.regex.Matches before
      (spelled stamp ' ' (printedFraction digits 0 stamp.time.microsecond)) more := by
  rw [spelled_eq]
  exact matches_spaced_iff.mpr ⟨_, _, _, rfl, isDate_dateText stamp, isClock_clockText stamp,
    isFraction_printed _ _ _⟩

theorem parse_spaced (year : ℕ) {digits : ℕ} {part : List Char} (atMost : digits ≤ 6)
    (written : part = spelled stamp ' ' (printedFraction digits 0 stamp.time.microsecond))
    (only : OnlyDate front part rest) :
    parseTimestamp year (String.ofList (front ++ (part ++ rest))) =
      some (atUtc (cut digits stamp)) := by
  apply parse_found_spaced atMost written
  · apply search_eq_none (fun _ _ _ => rfc3339_marked) ?_ (only _ (by simp [timestampPatterns]))
    rw [written]
    exact not_mem_spelled (by decide) (by decide)
  · apply search_eq_some greedy_spaced ?_ (only _ (by simp [timestampPatterns]))
    rw [written]
    exact matches_spelled

/-- Within brackets, the pattern of the bare spelling finds what they hold. -/
theorem onlyWithin_brackets {value : List Char}
    (only : spaced.regex.OnlyWithin front ('[' :: (value ++ [']'])) rest) :
    spaced.regex.OnlyWithin (front ++ ['[']) value (']' :: rest) := by
  intro start taken more same matched
  rcases only start taken more (by simpa using same) matched with ⟨skipped, left, rfl, part⟩
  have dashed := spaced_dashed matched
  have unbracketed : '[' ∉ taken ∧ ']' ∉ taken := by
    refine ⟨fun mem => ?_, fun mem => ?_⟩
    · rcases spaced_mem matched mem with digit | other
      · exact ne_of_isDecimal digit (by decide) rfl
      · exact absurd other (by decide)
    · rcases spaced_mem matched mem with digit | other
      · exact ne_of_isDecimal digit (by decide) rfl
      · exact absurd other (by decide)
  cases skipped with
  | nil =>
      rcases List.exists_cons_of_ne_nil (List.ne_nil_of_mem dashed) with ⟨c, tail, rfl⟩
      have first := (List.cons.inj part).1
      rw [← first] at unbracketed
      exact absurd List.mem_cons_self unbracketed.1
  | cons c skipped =>
      have parts : '[' = c ∧ value ++ [']'] = skipped ++ (taken ++ left) := List.cons.inj part
      rcases parts with ⟨rfl, inner⟩
      rcases List.eq_nil_or_concat left with rfl | ⟨left, d, rfl⟩
      · rw [List.append_nil] at inner
        have last := congrArg List.getLast? inner
        rw [List.getLast?_append_of_ne_nil _ (by simp),
          List.getLast?_append_of_ne_nil _ (List.ne_nil_of_mem dashed)] at last
        exact absurd (List.mem_of_getLast? last.symm) unbracketed.2
      · have ended : value ++ [']'] = (skipped ++ (taken ++ left)) ++ [d] := by
          rw [inner]
          simp
        refine ⟨skipped, left, by simp, ?_⟩
        exact (List.append_inj' ended rfl).1

theorem parse_bracketed (year : ℕ) {digits : ℕ} {value : List Char} (atMost : digits ≤ 6)
    (written : value = spelled stamp ' ' (printedFraction digits 0 stamp.time.microsecond))
    (only : OnlyDate front ('[' :: (value ++ [']'])) rest) :
    parseTimestamp year (String.ofList (front ++ ('[' :: (value ++ [']']) ++ rest))) =
      some (atUtc (cut digits stamp)) := by
  apply parse_found_spaced atMost written
  · apply search_eq_none (fun _ _ _ => rfc3339_marked) ?_ (only _ (by simp [timestampPatterns]))
    have plain : 'T' ∉ value := by
      rw [written]
      exact not_mem_spelled (by decide) (by decide)
    simp [plain]
  · have within := onlyWithin_brackets (only spaced (by simp [timestampPatterns]))
    have matched : spaced.regex.Matches (lastOf none (front ++ ['['])) value (']' :: rest) := by
      rw [written]
      exact matches_spelled
    have found := search_eq_some greedy_spaced matched within
    simpa using found

/-- What the native spelling reads, in a year. -/
theorem parse_native (year : ℕ) {digits : ℕ} {part : List Char} (atMost : digits ≤ 6)
    (written : part = nativeText stamp (printedFraction digits 0 stamp.time.microsecond))
    (only : OnlyDate front part rest) :
    parseTimestamp year (String.ofList (front ++ (part ++ rest))) =
      ((if 1000 ≤ year then Date.ofParts year stamp.date.month stamp.date.day else none).map
        fun date => atUtc ⟨date, (cut digits stamp).time⟩) := by
  have plain : ∀ c, isAsciiDigit c = false → c ∉ ['/', ' ', ':', '.'] → c ∉ part := by
    intro c noDigit other
    simp only [List.mem_cons, not_or] at other
    rw [written]
    simp [nativeText, not_mem_padded noDigit, not_mem_printed noDigit other.2.2.2.1, other]
  have shape : part = padded 2 stamp.date.month ++ '/' :: (padded 2 stamp.date.day ++
      ' ' :: (clockText stamp ++ printedFraction digits 0 stamp.time.microsecond)) := by
    rw [written]
    simp [nativeText, clockText]
  have matched : native.regex.Matches (lastOf none front) part rest := by
    rw [shape]
    exact matches_native_iff.mpr ⟨_, _, _, _, rfl, isDigits_padded _ _, isDigits_padded _ _,
      isClock_clockText stamp, isFraction_printed _ _ _⟩
  have found := search_eq_some greedy_native matched (only _ (by simp [timestampPatterns]))
  have unmarked : rfc3339.regex.search (front ++ (part ++ rest)) = none :=
    search_eq_none (fun _ _ _ => rfc3339_marked) (plain 'T' (by decide) (by decide))
      (only _ (by simp [timestampPatterns]))
  have undashed : spaced.regex.search (front ++ (part ++ rest)) = none :=
    search_eq_none (fun _ _ _ => spaced_dashed) (plain '-' (by decide) (by decide))
      (only _ (by simp [timestampPatterns]))
  have unbracketed : bracketed.regex.search (front ++ (part ++ rest)) = none :=
    search_eq_none (fun _ _ _ => bracketed_bracket) (plain '[' (by decide) (by decide))
      (only _ (by simp [timestampPatterns]))
  have read : readValue year part =
      ((if 1000 ≤ year then Date.ofParts year stamp.date.month stamp.date.day else none).map
        fun date => atUtc ⟨date, (cut digits stamp).time⟩) := by
    rw [shape, readValue_native (isDigits_padded _ _) (isDigits_padded _ _), ← shape, written,
      strptime_nativeText year atMost, Option.map_map]
    rfl
  have group : native.group part = part := rfl
  unfold parseTimestamp timestampPatterns
  rw [parseTimestampWith, String.toList_ofList, unmarked]
  dsimp only
  rw [parseTimestampWith, undashed]
  dsimp only
  rw [parseTimestampWith, unbracketed]
  dsimp only
  rw [parseTimestampWith, found]
  dsimp only
  rw [group, read]
  cases (if 1000 ≤ year then Date.ofParts year stamp.date.month stamp.date.day else none) with
  | none => rfl
  | some date => rfl

end

/-- A line with one date, the spelling of an instant, and a moment of parsing within a
day after that instant. -/
structure StampedLine [TextTables] where
  spelling : Spelling
  stamp : DateTime
  front : List Char
  rest : List Char
  only : OnlyDate front (spelling.text stamp) rest
  now : DateTime
  soon : stamp.instant - spelling.offset * 1000000 ≤ now.instant ∧
    now.instant < stamp.instant - spelling.offset * 1000000 + 86400 * 1000000

namespace StampedLine

variable [TextTables]

/-- The instant that the line is stamped with. -/
def instant (line : StampedLine) : ℤ := line.stamp.instant - line.spelling.offset * 1000000

def text (line : StampedLine) : String :=
  String.ofList (line.front ++ (line.spelling.text line.stamp ++ line.rest))

/-- The instant that `parse_timestamp` returns. -/
def decoded (line : StampedLine) : Option ℤ :=
  (parseTimestamp line.now.date.year line.text).map instantOf

/-- A native stamp is parsed in the year that it was written in, which has four digits. -/
def SameYear (line : StampedLine) : Prop :=
  line.spelling.isNative → line.now.date.year = line.stamp.date.year ∧ 1000 ≤ line.stamp.date.year

omit [TextTables] in
theorem truncated_mono {digits : ℕ} {instant other : ℤ} (atMost : instant ≤ other) :
    truncated digits instant ≤ truncated digits other := by
  have floor : ∀ instant, truncated digits instant =
      10 ^ (6 - digits) * (instant / 10 ^ (6 - digits)) := by
    intro instant
    have parts := Int.mul_ediv_add_emod instant (10 ^ (6 - digits))
    unfold truncated
    omega
  have unit : (0 : ℤ) < 10 ^ (6 - digits) := by positivity
  rw [floor, floor]
  exact mul_le_mul_of_nonneg_left (Int.ediv_le_ediv unit atMost) unit.le

omit [TextTables] in
theorem instantOf_cut (digits : ℕ) (stamp : DateTime) (offset : ℤ) :
    instantOf ⟨cut digits stamp, some offset⟩ =
      truncated digits (stamp.instant - offset * 1000000) :=
  instant_cut digits stamp offset

omit [TextTables] in
/-- A native stamp is read back in its own year only. -/
theorem native_recovers_iff {year digits : ℕ} {stamp : DateTime} :
    ((if 1000 ≤ year then Date.ofParts year stamp.date.month stamp.date.day else none).map
      fun date => atUtc ⟨date, (cut digits stamp).time⟩).map instantOf =
        some (truncated digits (stamp.instant - 0 * 1000000)) ↔
      year = stamp.date.year ∧ 1000 ≤ stamp.date.year := by
  rw [← instantOf_cut]
  constructor
  · intro recovered
    by_cases late : 1000 ≤ year
    · rw [if_pos late] at recovered
      cases found : Date.ofParts year stamp.date.month stamp.date.day with
      | none =>
          rw [found] at recovered
          exact absurd recovered (by simp)
      | some date =>
          rw [found] at recovered
          have instants : instantOf (atUtc ⟨date, (cut digits stamp).time⟩) =
              instantOf ⟨cut digits stamp, some 0⟩ := Option.some.inj recovered
          have same : (⟨date, (cut digits stamp).time⟩ : DateTime).instant =
              (cut digits stamp).instant := by
            simpa [instantOf, atUtc] using instants
          have dates : date = stamp.date := congrArg DateTime.date (eq_of_instant_eq same)
          have years := (Date.ofParts_eq_some_iff.mp found).1
          rw [dates] at years
          exact ⟨years.symm, years ▸ late⟩
    · rw [if_neg late] at recovered
      exact absurd recovered (by simp)
  · rintro ⟨rfl, late⟩
    have date : Date.ofParts stamp.date.year stamp.date.month stamp.date.day = some stamp.date :=
      Date.ofParts_eq_some_iff.mpr ⟨rfl, rfl, rfl⟩
    rw [if_pos late, date]
    rfl

/-- Only the native spelling needs the year of the moment of parsing. -/
theorem decoded_eq_iff (line : StampedLine) :
    line.decoded = some (truncated line.spelling.digits line.instant) ↔ line.SameYear := by
  rcases line with ⟨spelling, stamp, front, rest, only, now, soon⟩
  have utc : ∀ digits, (some (atUtc (cut digits stamp))).map instantOf =
      some (truncated digits (stamp.instant - 0 * 1000000)) :=
    fun digits => congrArg some (instantOf_cut digits stamp 0)
  unfold decoded SameYear instant StampedLine.text
  dsimp only
  cases spelling with
  | rfc3339 digits below zone =>
      have parsed := parse_rfc3339 now.date.year rfl only
      have offset : (Spelling.rfc3339 digits below zone).offset =
          (zone.map Offset.seconds).getD 0 := by
        cases zone with
        | none => rfl
        | some zone => rfl
      refine iff_of_true ?_ fun isNative => absurd isNative Bool.false_ne_true
      rw [offset, ← instantOf_cut]
      exact congrArg _ parsed
  | spaced digits =>
      have parsed := parse_spaced now.date.year (Nat.le_of_lt_succ digits.isLt) rfl only
      refine iff_of_true ?_ fun isNative => absurd isNative Bool.false_ne_true
      exact (congrArg _ parsed).trans (utc digits)
  | bracketed digits =>
      have parsed := parse_bracketed now.date.year (Nat.le_of_lt_succ digits.isLt) rfl only
      refine iff_of_true ?_ fun isNative => absurd isNative Bool.false_ne_true
      exact (congrArg _ parsed).trans (utc digits)
  | native digits =>
      have parsed := parse_native now.date.year (Nat.le_of_lt_succ digits.isLt) rfl only
      have read := congrArg (Option.map instantOf) parsed
      constructor
      · intro recovered _
        exact native_recovers_iff.mp (read.symm.trans recovered)
      · intro sameYear
        exact read.trans (native_recovers_iff.mpr (sameYear rfl))

/-- Both lines give back their instants, cut to the printed digits, and keep their order. -/
structure Recovered (first second : StampedLine) : Prop where
  instant : first.decoded = some (truncated first.spelling.digits first.instant)
  otherInstant : second.decoded = some (truncated second.spelling.digits second.instant)
  order : first.instant ≤ second.instant → ∃ earlier later, first.decoded = some earlier ∧
    second.decoded = some later ∧ earlier ≤ later

/-- The instants of stamped lines are recovered, and with them the order of two lines
that print as many digits, exactly if native stamps are parsed in their own years. -/
theorem recovered_iff (first second : StampedLine)
    (same : first.spelling.digits = second.spelling.digits) :
    Recovered first second ↔ first.SameYear ∧ second.SameYear := by
  constructor
  · rintro ⟨recovered, otherRecovered, _⟩
    exact ⟨first.decoded_eq_iff.mp recovered, second.decoded_eq_iff.mp otherRecovered⟩
  · rintro ⟨sameYear, otherSameYear⟩
    have recovered := first.decoded_eq_iff.mpr sameYear
    have otherRecovered := second.decoded_eq_iff.mpr otherSameYear
    refine ⟨recovered, otherRecovered, fun order => ⟨_, _, recovered, otherRecovered, ?_⟩⟩
    rw [same]
    exact truncated_mono order

end StampedLine

theorem onlyDate_whole [TextTables] (part : List Char) : OnlyDate [] part [] := by
  intro pattern _ start taken more same _
  exact ⟨start, more, rfl, by simpa using same⟩

/-- The last second of a year, in the native spelling, parsed two seconds later. -/
def newYearsEve [TextTables] : StampedLine where
  spelling := .native 0
  stamp := ⟨⟨2024, 12, 31, by decide⟩, ⟨23, 59, 59, 0, by decide⟩⟩
  front := []
  rest := []
  only := onlyDate_whole _
  now := ⟨⟨2025, 1, 1, by decide⟩, ⟨0, 0, 1, 0, by decide⟩⟩
  soon := by decide

/-- The second before it, parsed in the same year. -/
def oldYear [TextTables] : StampedLine where
  spelling := .native 0
  stamp := ⟨⟨2024, 12, 31, by decide⟩, ⟨23, 59, 58, 0, by decide⟩⟩
  front := []
  rest := []
  only := onlyDate_whole _
  now := ⟨⟨2024, 12, 31, by decide⟩, ⟨23, 59, 59, 0, by decide⟩⟩
  soon := by decide

/-- The first second of a year, parsed in it. -/
def newYear [TextTables] : StampedLine where
  spelling := .native 0
  stamp := ⟨⟨2025, 1, 1, by decide⟩, ⟨0, 0, 0, 0, by decide⟩⟩
  front := []
  rest := []
  only := onlyDate_whole _
  now := ⟨⟨2025, 1, 1, by decide⟩, ⟨0, 0, 1, 0, by decide⟩⟩
  soon := by decide

theorem recovered_oldYear :
    @StampedLine.Recovered asciiTextTables (@oldYear asciiTextTables)
      (@newYear asciiTextTables) := by
  have sameYear : @StampedLine.SameYear asciiTextTables (@oldYear asciiTextTables) :=
    fun _ => by decide
  have otherSameYear : @StampedLine.SameYear asciiTextTables (@newYear asciiTextTables) :=
    fun _ => by decide
  exact (@StampedLine.recovered_iff asciiTextTables (@oldYear asciiTextTables)
    (@newYear asciiTextTables) rfl).mpr ⟨sameYear, otherSameYear⟩

theorem newYearsEve_lost : ¬@StampedLine.Recovered asciiTextTables (@oldYear asciiTextTables)
    (@newYearsEve asciiTextTables) := by
  intro recovered
  have sameYear : @StampedLine.SameYear asciiTextTables (@newYearsEve asciiTextTables) :=
    (@StampedLine.decoded_eq_iff asciiTextTables _).mp
      (@StampedLine.Recovered.otherInstant asciiTextTables _ _ recovered)
  exact absurd (sameYear rfl).1 (by decide)

end FivegLab.LogParser
