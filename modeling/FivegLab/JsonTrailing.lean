import FivegLab.JsonDecoder
import FivegLab.Text
import Mathlib.Data.List.Find
import Mathlib.Data.List.TakeWhile

/-!
# Text behind a JSON document

A document that is followed by white space and then by something visible is no
document.  The decoder reads the same value, and then meets what is behind it.
-/

namespace FivegLab.JsonDecoder

open Decoding

/-- A text that begins with white space. -/
def Spaced (text : List Char) : Prop := ∃ c rest, text = c :: rest ∧ Text.isSpace c = true

/-- On a longer text, the part reads the same and leaves more. -/
def Decoding.ReadsAlso {α : Type} (part longer : Decoding (α × List Char)) (more : List Char) :
    Prop :=
  ∀ value rest, part.outcome = .ok (value, rest) → longer.outcome = .ok (value, rest ++ more)

section

variable {α β : Type} {more : List Char}

theorem readsAlso_pure {value : α} {rest : List Char} :
    (pure (value, rest) : Decoding (α × List Char)).ReadsAlso
      (pure (value, rest ++ more)) more := by
  rintro _ _ ⟨⟩
  rfl

theorem readsAlso_fail {message : String} {rest : List Char} {longer : Decoding (α × List Char)} :
    (fail message rest : Decoding (α × List Char)).ReadsAlso longer more := by
  rintro _ _ ⟨⟩

/-- A sequence whose first part reads a text. -/
theorem Decoding.ReadsAlso.bind {part longer : Decoding (β × List Char)}
    {next next' : β × List Char → Decoding (α × List Char)} (first : part.ReadsAlso longer more)
    (rest : ∀ value rest, part.outcome = .ok (value, rest) →
      (next (value, rest)).ReadsAlso (next' (value, rest ++ more)) more) :
    (part >>= next).ReadsAlso (longer >>= next') more := by
  intro value left ended
  rcases outcome_bind_ok_iff.mp ended with ⟨⟨middle, between⟩, early, late⟩
  exact outcome_bind_ok_iff.mpr ⟨_, first _ _ early, rest _ _ early _ _ late⟩

/-- A sequence whose first part reads no text. -/
theorem readsAlso_bind_same {part : Decoding β} {next next' : β → Decoding (α × List Char)}
    (rest : ∀ value, (next value).ReadsAlso (next' value) more) :
    (part >>= next).ReadsAlso (part >>= next') more := by
  intro value left ended
  rcases outcome_bind_ok_iff.mp ended with ⟨middle, early, late⟩
  exact outcome_bind_ok_iff.mpr ⟨_, early, rest _ _ _ late⟩

end

/-- A unit is read in front of any text. -/
theorem unit_some {text rest : List Char} {value : ℕ} (read : unit text = some (value, rest)) :
    ∃ digits, text = digits ++ rest ∧ rest ≠ [] ∧ (∀ c ∈ digits, (hexValue c).isSome) ∧
      ∀ left ≠ [], unit (digits ++ left) = some (value, left) := by
  unfold unit at read
  split at read
  case h_1 first second third fourth next rest =>
    simp only [Option.bind_eq_bind, Option.bind_eq_some_iff, Option.pure_def, Option.some.injEq,
      Prod.mk.injEq] at read
    rcases read with ⟨a, isA, b, isB, c, isC, d, isD, rfl, rfl⟩
    refine ⟨[first, second, third, fourth], rfl, List.cons_ne_nil _ _,
      by simp [isA, isB, isC, isD], ?_⟩
    intro left some
    rcases List.exists_cons_of_ne_nil some with ⟨next', left, rfl⟩
    simp [unit, isA, isB, isC, isD]
  case h_2 => exact absurd read (by simp)

theorem lowSurrogate_some {text rest : List Char} {value : ℕ}
    (read : lowSurrogate text = some (value, rest)) :
    ∃ start, text = start ++ rest ∧ rest ≠ [] ∧ '"' ∉ start ∧
      ∀ left ≠ [], lowSurrogate (start ++ left) = some (value, left) := by
  unfold lowSurrogate at read
  split at read
  case h_1 text =>
    split at read
    case h_1 low left found =>
      rcases unit_some found with ⟨digits, split, more, hex, any⟩
      rw [Option.ite_none_right_eq_some, Option.some.injEq, Prod.mk.injEq] at read
      rcases read with ⟨range, rfl, rfl⟩
      refine ⟨'\\' :: 'u' :: digits, by rw [split]; rfl, more, ?_, ?_⟩
      · intro member
        simp only [List.mem_cons, Char.reduceEq, false_or] at member
        exact absurd (hex _ member) (by decide)
      · intro left some
        simp [lowSurrogate, any left some, range]
    case h_2 => exact absurd read (by simp)
  case h_2 => exact absurd read (by simp)

/-- What stands before a closing quote is no half of a pair with what is behind. -/
theorem lowSurrogate_append_none {text more : List Char} (quoted : '"' ∈ text)
    (alone : lowSurrogate text = none) : lowSurrogate (text ++ more) = none := by
  cases found : lowSurrogate (text ++ more) with
  | none => rfl
  | some read =>
      rcases lowSurrogate_some found with ⟨start, split, _, unquoted, any⟩
      rcases List.append_eq_append_iff.mp split with ⟨left, whole, _⟩ | ⟨left, whole, _⟩
      · rw [whole] at unquoted
        exact absurd (List.mem_append_left _ quoted) unquoted
      · have some : left ≠ [] := by
          rintro rfl
          rw [whole, List.append_nil] at quoted
          exact unquoted quoted
        rw [whole, any left some] at alone
        cases alone

theorem unicodeEscape_some {text rest : List Char} {value : Char}
    (read : unicodeEscape text = some (value, rest)) :
    rest <:+ text ∧ ∀ more, '"' ∈ rest → unicodeEscape (text ++ more) =
    some (value, rest ++ more) := by
  unfold unicodeEscape at read
  split at read
  case h_1 => exact absurd read (by simp)
  case h_2 high after found =>
    rcases unit_some found with ⟨digits, rfl, nonempty, _, any⟩
    have longer : ∀ more, unit (digits ++ after ++ more) = some (high, after ++ more) := by
      intro more
      rw [List.append_assoc]
      exact any _ (by simp [nonempty])
    split at read
    case isTrue isHigh =>
      split at read
      case h_1 low left paired =>
        rcases lowSurrogate_some paired with ⟨start, rfl, leftOver, _, anyLow⟩
        rw [Option.some.injEq, Prod.mk.injEq] at read
        rcases read with ⟨rfl, rfl⟩
        refine ⟨⟨digits ++ start, by rw [List.append_assoc]⟩, ?_⟩
        intro more _
        have pair : lowSurrogate (start ++ left ++ more) = some (low, left ++ more) := by
          rw [List.append_assoc]
          exact anyLow _ (by simp [leftOver])
        rw [unicodeEscape, longer]
        dsimp only
        rw [if_pos isHigh, pair]
      case h_2 alone =>
        rw [Option.some.injEq, Prod.mk.injEq] at read
        rcases read with ⟨rfl, rfl⟩
        refine ⟨List.suffix_append _ _, ?_⟩
        intro more quoted
        rw [unicodeEscape, longer]
        dsimp only
        rw [if_pos isHigh, lowSurrogate_append_none quoted alone]
    case isFalse notHigh =>
      rw [Option.some.injEq, Prod.mk.injEq] at read
      rcases read with ⟨rfl, rfl⟩
      refine ⟨List.suffix_append _ _, ?_⟩
      intro more _
      rw [unicodeEscape, longer]
      dsimp only
      rw [if_neg notHigh]

theorem escape_ok {start text rest : List Char} {value : Char}
    (read : (escape start text).outcome = .ok (value, rest)) :
    rest <:+ text ∧ ∀ start' more, '"' ∈ rest →
      (escape start' (text ++ more)).outcome = .ok (value, rest ++ more) := by
  unfold escape at read
  split at read
  case h_1 slash after =>
    split at read
    case h_1 found =>
      cases read
      rcases unicodeEscape_some found with ⟨suffix, longer⟩
      refine ⟨suffix.trans ((List.suffix_cons _ _).trans (List.suffix_cons _ _)), ?_⟩
      intro _ more quoted
      rw [List.cons_append, List.cons_append, escape, longer more quoted]
      rfl
    case h_2 => cases read
  case h_2 slash c after notUnicode =>
    split at read
    case h_1 found =>
      cases read
      refine ⟨(List.suffix_cons _ _).trans (List.suffix_cons _ _), ?_⟩
      intro _ more _
      rw [List.cons_append, List.cons_append, escape, found]
      · rfl
      · exact notUnicode
    case h_2 => cases read
  case h_3 => cases read

/-- A string ends with its closing quote. -/
theorem quote_mem_of_stringRest {start : List Char} {fuel : ℕ} {text chars rest : List Char}
    (read : (stringRest start fuel text).outcome = .ok (chars, rest)) : '"' ∈ text := by
  induction fuel generalizing text chars rest with
  | zero => cases read
  | succ fuel ih =>
      cases text with
      | nil => cases read
      | cons c text =>
          rw [stringRest] at read
          split at read
          case isTrue quote =>
            rw [quote]
            exact List.mem_cons_self
          case isFalse =>
            split at read
            · rcases outcome_bind_ok_iff.mp read with ⟨⟨value, left⟩, escaped, read⟩
              rcases outcome_bind_ok_iff.mp read with ⟨_, inner, _⟩
              exact (escape_ok escaped).1.subset (ih inner)
            · split at read
              · cases read
              · rcases outcome_bind_ok_iff.mp read with ⟨_, inner, _⟩
                exact List.mem_cons_of_mem _ (ih inner)

theorem stringRest_also {start start' : List Char} {fuel fuel' : ℕ} {text more : List Char}
    (enough : fuel ≤ fuel') :
    (stringRest start fuel text).ReadsAlso (stringRest start' fuel' (text ++ more)) more := by
  induction fuel generalizing fuel' text with
  | zero => exact readsAlso_fail
  | succ fuel ih =>
      rcases Nat.exists_eq_add_one_of_ne_zero (by omega : fuel' ≠ 0) with ⟨fuel', rfl⟩
      cases text with
      | nil => exact readsAlso_fail
      | cons c text =>
          have inner : ∀ {text}, (stringRest start fuel text).ReadsAlso
              (stringRest start' fuel' (text ++ more)) more := fun {_} => ih (by omega)
          rw [List.cons_append, stringRest, stringRest]
          split
          · exact readsAlso_pure
          · split
            · intro value rest ended
              rcases outcome_bind_ok_iff.mp ended with ⟨⟨first, left⟩, escaped, read⟩
              rcases outcome_bind_ok_iff.mp read with ⟨⟨chars, right⟩, closed, ended⟩
              have quoted := quote_mem_of_stringRest closed
              refine outcome_bind_ok_iff.mpr ⟨_, (escape_ok escaped).2 start' more quoted, ?_⟩
              refine outcome_bind_ok_iff.mpr ⟨_, inner _ _ closed, ?_⟩
              cases ended
              rfl
            · split
              · exact readsAlso_fail
              · exact inner.bind fun _ _ _ => readsAlso_pure

theorem scanString_also {text more : List Char} :
    (scanString text).ReadsAlso (scanString (text ++ more)) more := by
  cases text with
  | nil => exact fun _ _ read => by cases read
  | cons c text =>
      have read : (stringRest (c :: text) (c :: text).length text).ReadsAlso
          (stringRest (c :: (text ++ more)) (c :: (text ++ more)).length (text ++ more)) more :=
        stringRest_also (by simp)
      exact read.bind fun _ _ _ => readsAlso_pure

section Spaced

variable {text more : List Char}

/-- What follows a number does not go on with it. -/
def Ends (more : List Char) : Prop :=
  ∀ c, more.head? = some c → isDigit c = false ∧ c ∉ ['.', 'e', 'E', '+', '-']

theorem Ends.head_ne {c : Char} (ends : Ends more) (sign : c ∈ ['.', 'e', 'E', '+', '-']) :
    more.head? ≠ some c :=
  fun head => (ends c head).2 sign

theorem Ends.digits (ends : Ends more) :
    (text ++ more).takeWhile isDigit = text.takeWhile isDigit := by
  induction text with
  | nil =>
      cases more with
      | nil => rfl
      | cons c more => simp [(ends c rfl).1]
  | cons d text ih =>
      rw [List.cons_append, List.takeWhile_cons, List.takeWhile_cons, ih]

theorem Ends.digits_nil (ends : Ends more) : more.takeWhile isDigit = [] := by
  rw [← List.nil_append more, ends.digits, List.takeWhile_nil]

theorem Ends.wholeDigits_append (ends : Ends more) :
    wholeDigits (text ++ more) = wholeDigits text := by
  cases text with
  | nil =>
      have head : more.head? ≠ some '0' := by
        intro zero
        have digit := (ends '0' zero).1
        exact absurd digit (by decide)
      rw [List.nil_append, wholeDigits, ends.digits_nil]
      · rfl
      · rintro rest rfl
        exact head rfl
  | cons c text =>
      by_cases zero : c = '0'
      · subst zero
        rfl
      · rw [List.cons_append, wholeDigits, wholeDigits, ← List.cons_append, ends.digits]
        · simp [zero]
        · simp [zero]

theorem Ends.fractionPart_append (ends : Ends more) :
    fractionPart (text ++ more) = fractionPart text := by
  cases text with
  | nil =>
      have head := ends.head_ne (c := '.') (by decide)
      rw [List.nil_append, fractionPart]
      · rfl
      · rintro rest rfl
        exact head rfl
  | cons c text =>
      by_cases point : c = '.'
      · subst point
        rw [List.cons_append, fractionPart, fractionPart, ends.digits]
      · rw [List.cons_append, fractionPart, fractionPart]
        · simp [point]
        · simp [point]

theorem Ends.exponentDigits_append (ends : Ends more) :
    exponentDigits (text ++ more) = exponentDigits text := by
  cases text with
  | nil =>
      have plus := ends.head_ne (c := '+') (by decide)
      have minus := ends.head_ne (c := '-') (by decide)
      rw [List.nil_append, exponentDigits, ends.digits_nil]
      · rfl
      · rintro rest rfl
        exact plus rfl
      · rintro rest rfl
        exact minus rfl
  | cons c text =>
      by_cases plus : c = '+'
      · subst plus
        rw [List.cons_append, exponentDigits, exponentDigits, ends.digits]
      · by_cases minus : c = '-'
        · subst minus
          rw [List.cons_append, exponentDigits, exponentDigits, ends.digits]
        · rw [List.cons_append, exponentDigits, exponentDigits, ← List.cons_append, ends.digits]
          · simp [plus]
          · simp [minus]
          · simp [plus]
          · simp [minus]

theorem Ends.exponentPart_append (ends : Ends more) :
    exponentPart (text ++ more) = exponentPart text := by
  cases text with
  | nil =>
      have small := ends.head_ne (c := 'e') (by decide)
      have big := ends.head_ne (c := 'E') (by decide)
      cases more with
      | nil => rfl
      | cons c more =>
          rw [List.head?_cons, ne_eq, Option.some.injEq] at small big
          rw [List.nil_append, exponentPart, if_neg (by simp [small, big])]
          rfl
  | cons c text => rw [List.cons_append, exponentPart, exponentPart, ends.exponentDigits_append]

theorem Ends.splitSign_append (ends : Ends more) :
    splitSign (text ++ more) = ((splitSign text).1, (splitSign text).2 ++ more) := by
  cases text with
  | nil =>
      have minus := ends.head_ne (c := '-') (by decide)
      rw [List.nil_append, splitSign]
      · rfl
      · rintro rest rfl
        exact minus rfl
  | cons c text =>
      by_cases minus : c = '-'
      · subst minus
        rfl
      · rw [List.cons_append, splitSign, splitSign]
        · rfl
        · simp [minus]
        · simp [minus]

theorem length_wholeDigits (text : List Char) : (wholeDigits text).length ≤ text.length := by
  unfold wholeDigits
  split
  · simp
  · exact (List.takeWhile_prefix _).length_le

theorem length_fractionPart (text : List Char) : (fractionPart text).length ≤ text.length := by
  unfold fractionPart
  split
  · split
    · simp
    · simpa using (List.takeWhile_prefix _).length_le
  · simp

theorem length_exponentDigits (text : List Char) : (exponentDigits text).length ≤ text.length := by
  unfold exponentDigits
  split
  · split
    · simp
    · simpa using (List.takeWhile_prefix _).length_le
  · split
    · simp
    · simpa using (List.takeWhile_prefix _).length_le
  · exact (List.takeWhile_prefix _).length_le

theorem length_exponentPart (text : List Char) : (exponentPart text).length ≤ text.length := by
  unfold exponentPart
  split
  case h_1 c rest =>
    have short := length_exponentDigits rest
    split
    · split
      · simp
      · simpa using short
    · simp
  case h_2 => simp

variable {printFloat : String → String} {limits : Limits}

theorem Ends.scanNumber_also (ends : Ends more) :
    (scanNumber printFloat limits text).ReadsAlso (scanNumber printFloat limits (text ++ more))
      more := by
  rw [scanNumber, scanNumber, ends.splitSign_append]
  dsimp only
  generalize (splitSign text).2 = unsigned
  rw [ends.wholeDigits_append, List.drop_append_of_le_length (length_wholeDigits unsigned)]
  generalize unsigned.drop (wholeDigits unsigned).length = afterWhole
  rw [ends.fractionPart_append, List.drop_append_of_le_length (length_fractionPart afterWhole)]
  generalize afterWhole.drop (fractionPart afterWhole).length = afterFraction
  rw [ends.exponentPart_append,
    List.drop_append_of_le_length (length_exponentPart afterFraction)]
  split
  · exact readsAlso_fail
  · split
    · exact readsAlso_bind_same fun _ => readsAlso_pure
    · exact readsAlso_pure

theorem isDigit_of_isSpace (c : Char) (space : Text.isSpace c = true) : isDigit c = false := by
  cases digit : isDigit c with
  | false => rfl
  | true =>
      simp only [isDigit, Bool.and_eq_true, decide_eq_true_eq, Char.le_def,
        UInt32.le_iff_toNat_le] at digit
      have low : 48 ≤ c.toNat := digit.1
      have high : c.toNat ≤ 57 := digit.2
      simp only [Text.isSpace, Bool.or_eq_true, Bool.and_eq_true, decide_eq_true_eq,
        beq_iff_eq] at space
      omega

theorem Spaced.ends (spaced : Spaced more) : Ends more := by
  intro c head
  rcases spaced with ⟨d, rest, rfl, space⟩
  rw [List.head?_cons, Option.some.injEq] at head
  subst head
  refine ⟨isDigit_of_isSpace d space, fun sign => ?_⟩
  have visible : ['.', 'e', 'E', '+', '-'].all (!Text.isSpace ·) = true := by decide +kernel
  have signed := List.all_eq_true.mp visible d sign
  rw [space] at signed
  cases signed

theorem Spaced.prefix_append_iff {part : List Char} (spaced : Spaced more)
    (visible : ∀ c ∈ part, Text.isSpace c = false) : part <+: text ++ more ↔ part <+: text := by
  rcases spaced with ⟨c, rest, rfl, space⟩
  constructor
  · intro start
    have longer : text ++ c :: rest = text ++ [c] ++ rest := by simp
    rw [longer] at start
    rcases List.prefix_or_prefix_of_prefix start (List.prefix_append (text ++ [c]) rest) with
      inside | whole
    · rcases List.prefix_concat_iff.mp inside with same | inside
      · have blank := visible c (by simp [same])
        rw [space] at blank
        cases blank
      · exact inside
    · have blank := visible c (whole.subset (by simp))
      rw [space] at blank
      cases blank
  · intro start
    exact start.trans (List.prefix_append _ _)

theorem Spaced.scanConstant_append (spaced : Spaced more) :
    scanConstant (text ++ more) =
      (scanConstant text).map fun read => (read.1, read.2 ++ more) := by
  have same : constants.find? (fun constant => constant.1.toList <+: text ++ more) =
      constants.find? fun constant => constant.1.toList <+: text := by
    have visible : ∀ constant ∈ constants, constant.1.toList.all (!Text.isSpace ·) = true := by
      decide +kernel
    apply List.find?_congr
    intro constant member
    have letters : ∀ c ∈ constant.1.toList, Text.isSpace c = false := by
      simpa using visible constant member
    simp only [spaced.prefix_append_iff letters]
  rw [scanConstant, scanConstant, same, Option.map_map]
  cases found : constants.find? fun constant => constant.1.toList <+: text with
  | none => rfl
  | some constant =>
      have start := List.find?_some found
      rw [decide_eq_true_eq] at start
      simp only [Option.map_some, Function.comp]
      rw [List.drop_append_of_le_length start.length_le]

end Spaced

theorem skipSpace_append {text : List Char} (some : skipSpace text ≠ []) (more : List Char) :
    skipSpace (text ++ more) = skipSpace text ++ more := by
  induction text with
  | nil => exact absurd rfl some
  | cons c text ih =>
      rw [skipSpace, List.dropWhile_cons] at some
      rw [List.cons_append, skipSpace, skipSpace, List.dropWhile_cons, List.dropWhile_cons]
      split
      case isTrue space =>
        rw [if_pos space] at some
        exact ih some
      case isFalse => rfl

theorem skipSpace_append_cons {text rest : List Char} {c : Char}
    (found : skipSpace text = c :: rest)
    (more : List Char) : skipSpace (text ++ more) = c :: (rest ++ more) := by
  rw [skipSpace_append (by simp [found]), found, List.cons_append]

section

variable {printFloat : String → String} {limits : Limits} {text more : List Char}

/-- Items and members are read from something. -/
theorem readsAlso_of_some {α : Type} {part longer : Decoding (α × List Char)} (text : List Char)
    (nothing : text = [] → ∀ value rest, part.outcome ≠ .ok (value, rest))
    (something : text ≠ [] → part.ReadsAlso longer more) : part.ReadsAlso longer more := by
  intro value rest read
  exact something (fun empty => nothing empty value rest read) value rest read

theorem scanItems_nil (fuel depth : ℕ) (value : List Json) (rest : List Char) :
    (scanItems printFloat limits fuel depth []).outcome ≠ .ok (value, rest) := by
  cases fuel with
  | zero => exact fun read => by cases read
  | succ fuel =>
      intro read
      rcases outcome_bind_ok_iff.mp read with ⟨_, item, _⟩
      cases fuel with
      | zero => cases item
      | succ fuel => cases item

theorem scanMembers_nil (fuel depth : ℕ) (value : List (String × Json)) (rest : List Char) :
    (scanMembers printFloat limits fuel depth []).outcome ≠ .ok (value, rest) := by
  cases fuel with
  | zero => exact fun read => by cases read
  | succ fuel => exact fun read => by cases read

/-- A closed container, or its contents. -/
theorem closed_also {α : Type} {part longer : Decoding (α × List Char)} {close : Char} {empty : α}
    (nothing : skipSpace text = [] → ∀ value rest, part.outcome ≠ .ok (value, rest))
    (something : skipSpace text ≠ [] → part.ReadsAlso longer more) :
    (if (skipSpace text).head? = some close then return (empty, (skipSpace text).tail)
      else part : Decoding (α × List Char)).ReadsAlso
      (if (skipSpace (text ++ more)).head? = some close then
        return (empty, (skipSpace (text ++ more)).tail) else longer) more := by
  cases found : skipSpace text with
  | nil =>
      rw [List.head?_nil, if_neg (by simp)]
      intro value rest read
      exact absurd read (nothing found value rest)
  | cons c rest =>
      rw [skipSpace_append_cons found, List.head?_cons, List.head?_cons]
      split
      · exact readsAlso_pure
      · exact something (by simp [found])

theorem scanValue_also (spaced : Spaced more) {fuel fuel' depth : ℕ}
    (members : ∀ depth text, (scanMembers printFloat limits fuel depth text).ReadsAlso
      (scanMembers printFloat limits fuel' depth (text ++ more)) more)
    (items : ∀ depth text, (scanItems printFloat limits fuel depth text).ReadsAlso
      (scanItems printFloat limits fuel' depth (text ++ more)) more) :
    (scanValue printFloat limits (fuel + 1) depth text).ReadsAlso
      (scanValue printFloat limits (fuel' + 1) depth (text ++ more)) more := by
  cases text with
  | nil => exact fun _ _ read => by cases read
  | cons c rest =>
      rw [List.cons_append, scanValue, scanValue]
      split
      · rw [← List.cons_append]
        exact scanString_also.bind fun _ _ _ => readsAlso_pure
      · split
        · refine readsAlso_bind_same fun _ => closed_also ?_ ?_
          · rintro empty value left read
            rcases outcome_bind_ok_iff.mp read with ⟨⟨fields, left⟩, inner, _⟩
            rw [empty] at inner
            exact scanMembers_nil _ _ _ _ inner
          · intro some
            rw [skipSpace_append some]
            exact (members _ _).bind fun _ _ _ => readsAlso_pure
        · split
          · refine readsAlso_bind_same fun _ => closed_also ?_ ?_
            · rintro empty value left read
              rcases outcome_bind_ok_iff.mp read with ⟨⟨list, left⟩, inner, _⟩
              rw [empty] at inner
              exact scanItems_nil _ _ _ _ inner
            · intro some
              rw [skipSpace_append some]
              exact (items _ _).bind fun _ _ _ => readsAlso_pure
          · rw [← List.cons_append, spaced.scanConstant_append]
            cases scanConstant (c :: rest) with
            | some read => exact readsAlso_pure
            | none => exact spaced.ends.scanNumber_also

theorem scanItems_also {fuel fuel' depth : ℕ}
    (value : ∀ text, (scanValue printFloat limits fuel depth text).ReadsAlso
      (scanValue printFloat limits fuel' depth (text ++ more)) more)
    (items : ∀ text, (scanItems printFloat limits fuel depth text).ReadsAlso
      (scanItems printFloat limits fuel' depth (text ++ more)) more) :
    (scanItems printFloat limits (fuel + 1) depth text).ReadsAlso
      (scanItems printFloat limits (fuel' + 1) depth (text ++ more)) more := by
  rw [scanItems, scanItems]
  refine (value text).bind fun item rest _ => ?_
  dsimp only
  split
  case h_1 left found =>
    rw [skipSpace_append_cons found]
    exact readsAlso_pure
  case h_2 left found =>
    rw [skipSpace_append_cons found]
    refine readsAlso_of_some (skipSpace left) ?_ ?_
    · rintro empty _ _ read
      rcases outcome_bind_ok_iff.mp read with ⟨⟨list, _⟩, inner, _⟩
      rw [empty] at inner
      exact scanItems_nil _ _ _ _ inner
    · intro some
      have later := items (skipSpace left)
      rw [← skipSpace_append some] at later
      exact later.bind fun _ _ _ => readsAlso_pure
  case h_3 => exact readsAlso_fail

theorem scanMembers_also {fuel fuel' depth : ℕ}
    (value : ∀ text, (scanValue printFloat limits fuel depth text).ReadsAlso
      (scanValue printFloat limits fuel' depth (text ++ more)) more)
    (members : ∀ text, (scanMembers printFloat limits fuel depth text).ReadsAlso
      (scanMembers printFloat limits fuel' depth (text ++ more)) more) :
    (scanMembers printFloat limits (fuel + 1) depth text).ReadsAlso
      (scanMembers printFloat limits (fuel' + 1) depth (text ++ more)) more := by
  rw [scanMembers, scanMembers]
  split
  case isFalse => exact readsAlso_fail
  case isTrue quoted =>
    rw [if_pos (by rw [List.head?_append, quoted]; rfl)]
    refine scanString_also.bind fun key rest _ => ?_
    dsimp only
    split
    case h_2 => exact readsAlso_fail
    case h_1 afterColon found =>
      rw [skipSpace_append_cons found]
      refine readsAlso_of_some (skipSpace afterColon) ?_ ?_
      · rintro empty _ _ read
        rcases outcome_bind_ok_iff.mp read with ⟨⟨item, _⟩, inner, _⟩
        rw [empty] at inner
        cases fuel with
        | zero => cases inner
        | succ fuel => cases inner
      · intro some
        have later := value (skipSpace afterColon)
        rw [← skipSpace_append some] at later
        refine later.bind fun item left _ => ?_
        dsimp only
        split
        case h_1 left found =>
          rw [skipSpace_append_cons found]
          exact readsAlso_pure
        case h_2 left found =>
          rw [skipSpace_append_cons found]
          refine readsAlso_of_some (skipSpace left) ?_ ?_
          · rintro empty _ _ read
            rcases outcome_bind_ok_iff.mp read with ⟨⟨fields, _⟩, inner, _⟩
            rw [empty] at inner
            exact scanMembers_nil _ _ _ _ inner
          · intro some
            have later := members (skipSpace left)
            rw [← skipSpace_append some] at later
            exact later.bind fun _ _ _ => readsAlso_pure
        case h_3 => exact readsAlso_fail

/-- What is behind white space does not change what is read in front of it. -/
theorem scan_also (spaced : Spaced more) {fuel fuel' : ℕ} (enough : fuel ≤ fuel') (depth : ℕ)
    (text : List Char) :
    (scanValue printFloat limits fuel depth text).ReadsAlso
      (scanValue printFloat limits fuel' depth (text ++ more)) more ∧
    (scanItems printFloat limits fuel depth text).ReadsAlso
      (scanItems printFloat limits fuel' depth (text ++ more)) more ∧
    (scanMembers printFloat limits fuel depth text).ReadsAlso
      (scanMembers printFloat limits fuel' depth (text ++ more)) more := by
  induction fuel generalizing fuel' depth text with
  | zero => exact ⟨readsAlso_fail, readsAlso_fail, readsAlso_fail⟩
  | succ fuel ih =>
      rcases Nat.exists_eq_add_one_of_ne_zero (by omega : fuel' ≠ 0) with ⟨fuel', rfl⟩
      have inner := @ih fuel' (by omega)
      exact ⟨scanValue_also spaced (fun depth text => (inner depth text).2.2)
          fun depth text => (inner depth text).2.1,
        scanItems_also (fun text => (inner depth text).1) fun text => (inner depth text).2.1,
        scanMembers_also (fun text => (inner depth text).1) fun text => (inner depth text).2.2⟩

theorem decode_trailing {value : Json} (spaced : Spaced more) (visible : skipSpace more ≠ [])
    (read : (decode printFloat limits text).outcome = .ok value) :
    ∃ rest, (decode printFloat limits (text ++ more)).outcome =
      .error (.malformed "Extra data" rest) := by
  rw [decode] at read
  split at read
  case isTrue => cases read
  case isFalse noMark =>
    rcases outcome_bind_ok_iff.mp read with ⟨⟨document, rest⟩, scanned, ended⟩
    have some : skipSpace text ≠ [] := by
      intro empty
      rw [empty] at scanned
      cases scanned
    have head : (text ++ more).head? = text.head? := by
      cases text with
      | nil => exact absurd rfl some
      | cons c text => rfl
    have enough : 2 * text.length + 1 ≤ 2 * (text ++ more).length + 1 := by
      rw [List.length_append]
      omega
    have longer := (scan_also spaced enough 0 (skipSpace text)).1 _ _ scanned
    have behind : skipSpace (rest ++ more) = skipSpace more := by
      dsimp only at ended
      split at ended
      case isTrue nothing =>
        have blank : ∀ c ∈ rest, isSpace c := List.dropWhile_eq_nil_iff.mp nothing
        exact List.dropWhile_append_of_pos blank
      case isFalse => cases ended
    refine ⟨skipSpace more, ?_⟩
    rw [decode, head, if_neg noMark, skipSpace_append some]
    simp only [Bind.bind, longer, behind, if_neg visible]
    rfl

/-- `json.loads` refuses a document with something visible behind it. -/
theorem loads_trailing {text more : String} {value : Json} (spaced : Spaced more.toList)
    (visible : skipSpace more.toList ≠ []) (read : loads printFloat limits text = .ok value) :
    ∃ error, loads printFloat limits (text ++ more) = .error error := by
  rw [loads] at read
  cases decoded : (decode printFloat limits text.toList).outcome with
  | error failure =>
      rw [decoded] at read
      cases read
  | ok value =>
      rcases decode_trailing spaced visible decoded with ⟨rest, failed⟩
      rw [loads, String.toList_append, failed]
      exact ⟨_, rfl⟩

end

end FivegLab.JsonDecoder
