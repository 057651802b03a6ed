import FivegLab.LogParser.Shapes

/-!
# Values of timestamps

What `parse_timestamp` makes of a text that one of its patterns matches: which
branch it takes, where it cuts the fraction, and what it hands to the library.
-/

namespace FivegLab.LogParser

open Calendar Regex

variable [TextTables]

theorem decimal_of_ascii {c : Char} (digit : isAsciiDigit c) : decimal c = asciiDigit c := by
  have small : c.toNat < 0x80 := by
    unfold isAsciiDigit asciiDigit at digit
    split at digit
    next within =>
      have last : c.toNat ≤ '9'.toNat := within.2
      exact lt_of_le_of_lt last (by decide)
    next => exact absurd digit (by decide)
  rw [decimal, if_pos small]

theorem isDecimal_of_ascii {c : Char} (digit : isAsciiDigit c) : isDecimal c := by
  rw [isDecimal, decimal_of_ascii digit]
  exact digit

theorem not_isDecimal_of_ascii {c : Char} (ascii : c.toNat < 0x80) (plain : asciiDigit c = none) :
    isDecimal c = false := by
  simp [isDecimal, decimal, ascii, plain]

/-- A separator of the spellings is no digit. -/
theorem not_isDecimal {c : Char}
    (separator : c ∈ ['-', '+', ':', '.', '/', ' ', 'T', 'Z', '[', ']']) :
    isDecimal c = false := by
  have all : ['-', '+', ':', '.', '/', ' ', 'T', 'Z', '[', ']'].all
      (fun c => c.toNat < 0x80 ∧ asciiDigit c = none) := by decide
  have plain := of_decide_eq_true (List.all_eq_true.mp all c separator)
  exact not_isDecimal_of_ascii plain.1 plain.2

theorem IsDigits.pair {text : List Char} (isDigits : IsDigits 2 text) :
    ∃ c d, text = [c, d] ∧ isDecimal c ∧ isDecimal d := by
  rcases List.length_eq_two.mp isDigits.length with ⟨c, d, rfl⟩
  exact ⟨c, d, rfl, isDigits.digits c (by simp), isDigits.digits d (by simp)⟩

/-- A value that begins with three digits is not native. -/
theorem not_isNative {front rest : List Char} (long : 3 ≤ front.length)
    (digits : ∀ c ∈ front, isDecimal c) : isNative (front ++ rest) = false := by
  rw [Bool.eq_false_iff]
  intro isNative
  obtain ⟨c, d, e, front, rfl⟩ : ∃ c d e more, front = c :: d :: e :: more := by
    match front, long with
    | c :: d :: e :: more, _ => exact ⟨c, d, e, more, rfl⟩
  have third : isDecimal e := digits e (by simp)
  have some := of_decide_eq_true isNative
  rcases List.exists_mem_of_ne_nil _ some with ⟨taken, mem⟩
  simp only [mem_ends_iff, all, matches_sequence_iff, matches_digits_iff,
    matches_character_iff] at mem
  rcases mem with ⟨_, same, month, _, rfl, months, _, _, rfl, rfl, _⟩
  rcases months.pair with ⟨_, _, rfl, _⟩
  simp only [List.cons_append, List.nil_append, List.cons.injEq] at same
  rw [same.2.2.1, not_isDecimal (by decide)] at third
  exact absurd third (by decide)

theorem IsDate.not_isNative {date : List Char} (isDate : IsDate date) (rest : List Char) :
    isNative (date ++ rest) = false := by
  rcases isDate with ⟨year, month, day, rfl, years, _⟩
  have long : 3 ≤ year.length := by
    rw [years.length]
    decide
  rw [List.append_assoc]
  exact LogParser.not_isNative long years.digits

theorem isNative_of_month {month rest : List Char} {day : List Char} (months : IsDigits 2 month)
    (days : IsDigits 2 day) : isNative (month ++ '/' :: (day ++ ' ' :: rest)) := by
  unfold isNative
  rw [decide_eq_true_iff]
  apply List.ne_nil_of_mem (a := month ++ '/' :: (day ++ [' ']))
  simp only [mem_ends_iff, all, matches_sequence_iff, matches_digits_iff, matches_character_iff]
  exact ⟨rest, by simp, month, _, rfl, months, ['/'], _, rfl, rfl, day, _, rfl, days, rfl⟩

/-- A value whose last six characters have no sign has no offset at its end. -/
theorem not_endsWithOffset {front tail : List Char} (long : 6 ≤ tail.length)
    (unsigned : ∀ c ∈ tail, c ≠ '+' ∧ c ≠ '-') : endsWithOffset (front ++ tail) = false := by
  have last : (front ++ tail).drop ((front ++ tail).length - 6) = tail.drop (tail.length - 6) := by
    rw [List.length_append, Nat.add_sub_assoc long, List.drop_append]
    simp
  rw [endsWithOffset, last]
  have some : tail.drop (tail.length - 6) ≠ [] := by
    apply List.ne_nil_of_length_pos
    rw [List.length_drop]
    omega
  rcases List.exists_cons_of_ne_nil some with ⟨sign, rest, split⟩
  have mem : sign ∈ tail := List.mem_of_mem_drop (split ▸ List.mem_cons_self)
  have plain := unsigned sign mem
  rw [split]
  unfold isOffset
  split
  next h _ _ _ same =>
    cases same
    simp [plain]
  next => rfl

theorem endsWithOffset_append {front offset : List Char} (isOffset : IsNumericOffset offset) :
    endsWithOffset (front ++ offset) := by
  rcases isOffset with ⟨sign, hours, minutes, rfl, signed, hour, minute⟩
  rcases hour.pair with ⟨h, i, rfl, first, second⟩
  rcases minute.pair with ⟨m, n, rfl, third, fourth⟩
  have last : (front ++ sign :: ([h, i] ++ ':' :: [m, n])).drop
      ((front ++ sign :: ([h, i] ++ ':' :: [m, n])).length - 6) = [sign, h, i, ':', m, n] := by
    simp
  rw [endsWithOffset, last]
  simp [LogParser.isOffset, signed, first, second, third, fourth]

theorem ne_of_isDecimal {c separator : Char} (digit : isDecimal c)
    (mem : separator ∈ ['-', '+', ':', '.', '/', ' ', 'T', 'Z', '[', ']']) : c ≠ separator := by
  rintro rfl
  rw [not_isDecimal mem] at digit
  exact absurd digit (by decide)

theorem IsDate.mem {date : List Char} {c : Char} (isDate : IsDate date) (mem : c ∈ date) :
    isDecimal c ∨ c = '-' := by
  rcases isDate with ⟨year, month, day, rfl, years, months, days⟩
  simp only [List.mem_append, List.mem_cons] at mem
  rcases mem with mem | rfl | mem | rfl | mem
  · exact .inl (years.digits c mem)
  · exact .inr rfl
  · exact .inl (months.digits c mem)
  · exact .inr rfl
  · exact .inl (days.digits c mem)

theorem IsClock.mem {time : List Char} {c : Char} (isClock : IsClock time) (mem : c ∈ time) :
    isDecimal c ∨ c = ':' := by
  rcases isClock with ⟨hour, minute, second, rfl, hours, minutes, seconds⟩
  simp only [List.mem_append, List.mem_cons] at mem
  rcases mem with mem | rfl | mem | rfl | mem
  · exact .inl (hours.digits c mem)
  · exact .inr rfl
  · exact .inl (minutes.digits c mem)
  · exact .inr rfl
  · exact .inl (seconds.digits c mem)

theorem IsFraction.mem {fractional : List Char} {c : Char} (isFraction : IsFraction fractional)
    (mem : c ∈ fractional) : isDecimal c ∨ c = '.' := by
  rcases isFraction with rfl | ⟨digits, rfl, _, decimals⟩
  · exact absurd mem List.not_mem_nil
  · rcases List.mem_cons.mp mem with rfl | mem
    · exact .inr rfl
    · exact .inl (decimals c mem)

theorem IsClock.length {time : List Char} (isClock : IsClock time) : time.length = 8 := by
  rcases isClock with ⟨hour, minute, second, rfl, hours, minutes, seconds⟩
  simp [hours.length, minutes.length, seconds.length]

theorem IsNumericOffset.mem {offset : List Char} {c : Char} (isOffset : IsNumericOffset offset)
    (mem : c ∈ offset) : isDecimal c ∨ c = '+' ∨ c = '-' ∨ c = ':' := by
  rcases isOffset with ⟨sign, hours, minutes, rfl, signed, hour, minute⟩
  simp only [List.mem_append, List.mem_cons] at mem
  rcases mem with rfl | mem | rfl | mem
  · exact .inr (signed.imp_right .inl)
  · exact .inl (hour.digits c mem)
  · exact .inr (.inr (.inr rfl))
  · exact .inl (minute.digits c mem)

theorem IsNumericOffset.zuluFree {offset : List Char} (isOffset : IsNumericOffset offset) :
    'Z' ∉ offset := by
  intro mem
  rcases isOffset.mem mem with digit | other
  · exact ne_of_isDecimal digit (by decide) rfl
  · exact absurd other (by decide)

theorem IsZone.pointless {zone : List Char} (isZone : IsZone zone) : '.' ∉ zone := by
  intro mem
  rcases isZone with rfl | numeric
  · exact absurd mem (by decide)
  · rcases numeric.mem mem with digit | other
    · exact ne_of_isDecimal digit (by decide) rfl
    · exact absurd other (by decide)

/-- The digits of a fraction are cut to six. -/
theorem trimFractionalSeconds_append {front fractional zone : List Char} (plain : '.' ∉ front)
    (isFraction : IsFraction fractional) (isZone : IsZone zone) :
    trimFractionalSeconds (front ++ (fractional ++ zone)) =
      front ++ (fractional.take 7 ++ zone) := by
  have pointless : ∀ c ∈ front, decide (c ≠ '.') = true := by
    intro c mem
    rw [decide_eq_true_iff]
    rintro rfl
    exact plain mem
  have zoneHead : zone.dropWhile isDecimal = zone ∧ zone.takeWhile isDecimal = [] := by
    rcases isZone with rfl | ⟨sign, _, _, rfl, signed, _⟩
    · simp [not_isDecimal]
    · rcases signed with rfl | rfl
      · simp [not_isDecimal]
      · simp [not_isDecimal]
  have zoneEnd : zone.head? = .some 'Z' ∨ isOffset zone := by
    rcases isZone with rfl | numeric
    · exact .inl rfl
    · have offset : endsWithOffset ([] ++ zone) := endsWithOffset_append numeric
      rcases numeric with ⟨_, hours, minutes, rfl, _, hour, minute⟩
      simp only [endsWithOffset, List.nil_append, List.length_cons, List.length_append,
        hour.length, minute.length] at offset
      exact .inr offset
  have zonePlain : zone.dropWhile (fun c => c ≠ '.') = [] := by
    rw [List.dropWhile_eq_nil_iff]
    intro c mem
    rw [decide_eq_true_iff]
    rintro rfl
    exact isZone.pointless mem
  unfold trimFractionalSeconds
  rw [List.dropWhile_append_of_pos pointless, List.takeWhile_append_of_pos pointless]
  rcases isFraction with rfl | ⟨digits, rfl, _, decimals⟩
  · rw [List.nil_append, zonePlain]
    rfl
  · have taken : (digits ++ zone).takeWhile isDecimal = digits := by
      rw [List.takeWhile_append_of_pos decimals, zoneHead.2, List.append_nil]
    have dropped : (digits ++ zone).dropWhile isDecimal = zone := by
      rw [List.dropWhile_append_of_pos decimals, zoneHead.1]
    have point : ('.' :: digits ++ zone).dropWhile (fun c => c ≠ '.') = '.' ::
        (digits ++ zone) := by
      simp
    have start : ('.' :: digits ++ zone).takeWhile (fun c => c ≠ '.') = [] := by
      simp
    rw [point, start]
    dsimp only
    rw [taken, dropped]
    split
    case isTrue long =>
      have six : (digits ++ zone).take 6 = digits.take 6 := List.take_append_of_le_length (by omega)
      rw [six]
      simp
    case isFalse short =>
      have whole : digits.length ≤ 6 := by
        by_contra more
        exact short ⟨by omega, zoneEnd⟩
      have all : ('.' :: digits).length ≤ 7 := Nat.succ_le_succ whole
      rw [List.take_of_length_le all]

/-- An offset as `fromisoformat` reads it. -/
def zoneText (zone : List Char) : List Char := if zone = ['Z'] then "+00:00".toList else zone

omit [TextTables] in
theorem replaceZulu_of_not_mem {front : List Char} (plain : 'Z' ∉ front) :
    replaceZulu front = front := by
  induction front with
  | nil => rfl
  | cons c front ih =>
      rw [List.mem_cons, not_or] at plain
      have tail := ih plain.2
      unfold replaceZulu at tail ⊢
      rw [List.flatMap_cons, tail, if_neg (Ne.symm plain.1)]
      rfl

/-- `Z` at the end is written as an offset. -/
theorem replaceZulu_append {front zone : List Char} (plain : 'Z' ∉ front) (isZone : IsZone zone) :
    (if (front ++ zone).getLast? = .some 'Z' then replaceZulu (front ++ zone) else front ++ zone) =
      front ++ zoneText zone := by
  unfold zoneText
  rcases isZone with rfl | numeric
  · have last : (front ++ ['Z']).getLast? = .some 'Z' := by simp
    have same : replaceZulu (front ++ ['Z']) = replaceZulu front ++ "+00:00".toList := by
      simp [replaceZulu]
    rw [if_pos last, if_pos rfl, same, replaceZulu_of_not_mem plain]
  · have last : (front ++ zone).getLast? ≠ .some 'Z' := by
      intro last
      rcases List.mem_append.mp (List.mem_of_getLast? last) with mem | mem
      · exact plain mem
      · exact numeric.zuluFree mem
    have other : zone ≠ ['Z'] := by
      rintro rfl
      exact numeric.zuluFree (by decide)
    rw [if_neg last, if_neg other]

theorem endsWithOffset_zoneText {front zone : List Char} (isZone : IsZone zone) :
    endsWithOffset (front ++ zoneText zone) := by
  apply endsWithOffset_append
  unfold zoneText
  rcases isZone with rfl | numeric
  · have zero : isDecimal '0' = true := by simp [isDecimal, decimal, asciiDigit]
    exact ⟨'+', ['0', '0'], ['0', '0'], rfl, .inl rfl, ⟨rfl, by simp [zero]⟩, ⟨rfl, by simp [zero]⟩⟩
  · have other : zone ≠ ['Z'] := by
      rintro rfl
      exact numeric.zuluFree (by decide)
    rw [if_neg other]
    exact numeric

/-- An RFC 3339 timestamp as `fromisoformat` gets it. -/
def offsetText (value : List Char) : List Char :=
  let trimmed := trimFractionalSeconds value
  if trimmed.getLast? = .some 'Z' then replaceZulu trimmed else trimmed

theorem offsetText_append {date time fractional zone : List Char} (isDate : IsDate date)
    (isClock : IsClock time) (isFraction : IsFraction fractional) (isZone : IsZone zone) :
    offsetText (date ++ 'T' :: (time ++ (fractional ++ zone))) =
      date ++ 'T' :: (time ++ (fractional.take 7 ++ zoneText zone)) := by
  have front : ∀ tail, date ++ 'T' :: (time ++ tail) = (date ++ 'T' :: time) ++ tail := by
    simp
  have mem : ∀ c ∈ date ++ 'T' :: time, isDecimal c ∨ c = '-' ∨ c = 'T' ∨ c = ':' := by
    intro c mem
    rcases List.mem_append.mp mem with mem | mem
    · exact (isDate.mem mem).imp_right .inl
    · rcases List.mem_cons.mp mem with rfl | mem
      · exact .inr (.inr (.inl rfl))
      · exact (isClock.mem mem).imp_right fun colon => .inr (.inr colon)
  have pointless : '.' ∉ date ++ 'T' :: time := by
    intro point
    rcases mem _ point with digit | other
    · exact ne_of_isDecimal digit (by decide) rfl
    · exact absurd other (by decide)
  have plain : 'Z' ∉ (date ++ 'T' :: time) ++ fractional.take 7 := by
    intro zulu
    rcases List.mem_append.mp zulu with zulu | zulu
    · rcases mem _ zulu with digit | other
      · exact ne_of_isDecimal digit (by decide) rfl
      · exact absurd other (by decide)
    · rcases isFraction.mem (List.mem_of_mem_take zulu) with digit | other
      · exact ne_of_isDecimal digit (by decide) rfl
      · exact absurd other (by decide)
  unfold offsetText
  dsimp only
  rw [front, trimFractionalSeconds_append pointless isFraction isZone, ← List.append_assoc,
    replaceZulu_append plain isZone, List.append_assoc, ← front]

/-- What is read of an RFC 3339 timestamp. -/
theorem readValue_rfc3339 {year : ℕ} {date time fractional zone : List Char} (isDate : IsDate date)
    (isClock : IsClock time) (isFraction : IsFraction fractional) (isZone : IsZone zone) :
    readValue year (date ++ 'T' :: (time ++ (fractional ++ zone))) =
      fromisoformat (offsetText (date ++ 'T' :: (time ++ (fractional ++ zone)))) := by
  have marked : 'T' ∈ date ++ 'T' :: (time ++ (fractional ++ zone)) := by
    simp
  have offset : endsWithOffset (offsetText (date ++ 'T' :: (time ++ (fractional ++ zone)))) := by
    have split : date ++ 'T' :: (time ++ (fractional.take 7 ++ zoneText zone)) =
        (date ++ 'T' :: (time ++ fractional.take 7)) ++ zoneText zone := by
      simp
    rw [offsetText_append isDate isClock isFraction isZone, split]
    exact endsWithOffset_zoneText isZone
  unfold offsetText at offset ⊢
  unfold readValue
  dsimp only at offset ⊢
  rw [isDate.not_isNative, if_neg (by decide), if_pos marked, if_pos offset]

/-- What is read of a date and time in UTC. -/
theorem readValue_spaced {year : ℕ} {date time fractional : List Char} (isDate : IsDate date)
    (isClock : IsClock time) (isFraction : IsFraction fractional) :
    readValue year (date ++ ' ' :: (time ++ fractional)) =
      (fromisoformat (date ++ ' ' :: (time ++ fractional))).map fun parsed =>
        atUtc parsed.stamp := by
  have clockMem : ∀ c ∈ time ++ fractional, isDecimal c ∨ c = ':' ∨ c = '.' := by
    intro c mem
    rcases List.mem_append.mp mem with mem | mem
    · exact (isClock.mem mem).imp_right .inl
    · exact (isFraction.mem mem).imp_right .inr
  have unmarked : 'T' ∉ date ++ ' ' :: (time ++ fractional) := by
    intro mem
    rcases List.mem_append.mp mem with mem | mem
    · rcases isDate.mem mem with digit | other
      · exact ne_of_isDecimal digit (by decide) rfl
      · exact absurd other (by decide)
    · rcases List.mem_cons.mp mem with other | mem
      · exact absurd other (by decide)
      · rcases clockMem _ mem with digit | other
        · exact ne_of_isDecimal digit (by decide) rfl
        · exact absurd other (by decide)
  have nonempty : time ++ fractional ≠ [] := by
    apply List.ne_nil_of_length_pos
    rw [List.length_append, isClock.length]
    omega
  have last : (date ++ ' ' :: (time ++ fractional)).getLast? ≠ .some 'Z' := by
    intro last
    have split : date ++ ' ' :: (time ++ fractional) = (date ++ [' ']) ++ (time ++ fractional) := by
      simp
    rw [split, List.getLast?_append_of_ne_nil _ nonempty] at last
    rcases clockMem _ (List.mem_of_getLast? last) with digit | other
    · exact ne_of_isDecimal digit (by decide) rfl
    · exact absurd other (by decide)
  have unsigned : endsWithOffset (date ++ ' ' :: (time ++ fractional)) = false := by
    have split : date ++ ' ' :: (time ++ fractional) = (date ++ [' ']) ++ (time ++ fractional) := by
      simp
    rw [split]
    apply not_endsWithOffset
    · rw [List.length_append, isClock.length]
      omega
    · intro c mem
      rcases clockMem c mem with digit | rfl | rfl
      · exact ⟨ne_of_isDecimal digit (by decide), ne_of_isDecimal digit (by decide)⟩
      · decide
      · decide
  unfold readValue
  rw [isDate.not_isNative]
  dsimp only
  rw [if_neg (by decide), if_neg unmarked, if_neg last, unsigned, if_neg (by decide)]

/-- What is read of a native timestamp. -/
theorem readValue_native {year : ℕ} {month day rest : List Char} (months : IsDigits 2 month)
    (days : IsDigits 2 day) :
    readValue year (month ++ '/' :: (day ++ ' ' :: rest)) =
      (strptime year (month ++ '/' :: (day ++ ' ' :: rest))).map atUtc := by
  rw [readValue, if_pos (isNative_of_month months days)]

end FivegLab.LogParser
