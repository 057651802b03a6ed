import FivegLab.JsonRoundTrip

/-!
# Documents that were read

Whatever `json.loads` returns is within the limits of the decoder, so it can be
printed and read again.
-/

namespace FivegLab

namespace JsonDecoder

open Decoding Json

/-- What the part reads, if it reads something. -/
def Decoding.Yields {α : Type} (good : α → Prop) (part : Decoding (α × List Char)) : Prop :=
  ∀ value rest, part.outcome = .ok (value, rest) → good value

section

variable {α β : Type} {good : α → Prop}

theorem yields_pure {value : α} {rest : List Char} (holds : good value) :
    (pure (value, rest) : Decoding (α × List Char)).Yields good := by
  intro other left read
  rw [outcome_pure, Except.ok.injEq, Prod.mk.injEq] at read
  rw [← read.1]
  exact holds

theorem yields_fail (message : String) (rest : List Char) :
    (fail message rest : Decoding (α × List Char)).Yields good := by
  intro value left read
  cases read

theorem yields_bind {first : Decoding β} {next : β → Decoding (α × List Char)}
    (each : ∀ value, first.outcome = .ok value → (next value).Yields good) :
    (first >>= next).Yields good := by
  intro value rest read
  rcases outcome_bind_ok_iff.mp read with ⟨found, ended, read⟩
  exact each found ended value rest read

end

theorem within_of_meet {limits : Limits} {met : Met} {found : Unit}
    (ended : (meet limits met).outcome = .ok found) : met.Within limits := by
  by_contra outside
  rw [meet, if_neg outside] at ended
  cases ended

theorem decimalValue_lt (digits : List Char) (all : ∀ c ∈ digits, isDigit c = true) :
    decimalValue digits < 10 ^ digits.length := by
  have bound : ∀ before,
      digits.foldl (fun value c => 10 * value + (c.toNat - 48)) before <
        (before + 1) * 10 ^ digits.length := by
    induction digits with
    | nil => simp
    | cons c digits ih =>
        intro before
        rw [List.forall_mem_cons] at all
        have small : c.toNat - 48 < 10 := by
          have digit := all.1
          rw [isDigit, Bool.and_eq_true, decide_eq_true_eq, decide_eq_true_eq] at digit
          have upper : c.toNat ≤ 57 := digit.2
          omega
        calc
          _ < (10 * before + (c.toNat - 48) + 1) * 10 ^ digits.length := ih all.2 _
          _ ≤ (10 * (before + 1)) * 10 ^ digits.length := Nat.mul_le_mul_right _ (by omega)
          _ = (before + 1) * 10 ^ (c :: digits).length := by
            rw [List.length_cons, Nat.pow_succ, Nat.mul_comm 10, Nat.mul_assoc, Nat.mul_comm 10]
  have total := bound 0
  rwa [Nat.zero_add, Nat.one_mul] at total

theorem isDigit_of_wholeDigits {text : List Char} : ∀ c ∈ wholeDigits text, isDigit c = true := by
  intro c member
  unfold wholeDigits at member
  split at member
  · rw [List.mem_singleton.mp member]
    decide
  · exact List.mem_takeWhile_imp member

variable {printFloat : String → String} {limits : Limits}

variable (printFloat limits) in
/-- The floats that are read are printed as they are read. -/
def PrintsFloats : Prop :=
  ∀ text printed rest, (scanNumber printFloat limits text).outcome = .ok (.float printed, rest) →
    FloatReads printFloat limits printed

/-- An integer that is read is as short as its digits. -/
theorem shortInt_of_digits {sign text : List Char} (some : wholeDigits text ≠ [])
    (within : (Met.integer (wholeDigits text).length).Within limits) :
    ShortInt limits (if sign = [] then (decimalValue (wholeDigits text) : ℤ)
      else -(decimalValue (wholeDigits text) : ℤ)) := by
  have absolute : (if sign = [] then (decimalValue (wholeDigits text) : ℤ)
      else -(decimalValue (wholeDigits text) : ℤ)).natAbs = decimalValue (wholeDigits text) := by
    split
    · exact Int.natAbs_natCast _
    · rw [Int.natAbs_neg, Int.natAbs_natCast]
  rw [ShortInt, absolute]
  refine Nat.le_trans ((Nat.length_toDigits_le_iff (by omega) ?_).mpr
    (decimalValue_lt _ isDigit_of_wholeDigits)) within
  exact List.length_pos_iff.mpr some

theorem yields_scanNumber (prints : PrintsFloats printFloat limits) (depth : ℕ)
    (text : List Char) :
    (scanNumber printFloat limits text).Yields (Readable printFloat limits depth) := by
  intro value rest read
  have scanned := read
  rw [scanNumber] at scanned
  dsimp only at scanned
  split at scanned
  case isTrue => cases scanned
  case isFalse some =>
    split at scanned
    case isTrue =>
      rcases outcome_bind_ok_iff.mp scanned with ⟨_, met, scanned⟩
      rw [outcome_pure, Except.ok.injEq, Prod.mk.injEq] at scanned
      rw [← scanned.1]
      exact shortInt_of_digits some (within_of_meet met)
    case isFalse =>
      rw [outcome_pure, Except.ok.injEq, Prod.mk.injEq] at scanned
      rw [← scanned.1] at read ⊢
      exact prints text _ rest read

theorem readable_of_scanConstant {text rest : List Char} {value : Json} (depth : ℕ)
    (found : scanConstant text = some (value, rest)) : Readable printFloat limits depth value := by
  rw [scanConstant, Option.map_eq_some_iff] at found
  rcases found with ⟨constant, found, same⟩
  have member := List.mem_of_find?_eq_some found
  rw [Prod.mk.injEq] at same
  rw [← same.1]
  simp only [constants, List.mem_cons, List.not_mem_nil, or_false] at member
  rcases member with rfl | rfl | rfl | rfl | rfl | rfl
  · trivial
  · trivial
  · trivial
  · exact .inl (by simp [constants])
  · exact .inl (by simp [constants])
  · exact .inl (by simp [constants])

theorem mem_insertField {fields : List (String × Json)} {field other : String × Json}
    (member : other ∈ insertField fields field) : other ∈ fields ∨ other = field := by
  rw [insertField] at member
  split at member
  · rcases List.mem_map.mp member with ⟨found, known, rfl⟩
    split
    · exact .inr rfl
    · exact .inl known
  · rw [List.mem_append, List.mem_singleton] at member
    exact member

theorem insertField_nodup {fields : List (String × Json)} {field : String × Json}
    (distinct : (fields.map Prod.fst).Nodup) : ((insertField fields field).map Prod.fst).Nodup := by
  rw [insertField]
  split
  case isTrue =>
    have keys : (fields.map fun other => if other.1 = field.1 then field else other).map Prod.fst =
        fields.map Prod.fst := by
      rw [List.map_map]
      refine List.map_congr_left fun other _ => ?_
      rw [Function.comp]
      split
      case isTrue same => exact same.symm
      case isFalse => rfl
    rwa [keys]
  case isFalse fresh =>
    rw [List.map_append, List.map_singleton, List.nodup_append]
    refine ⟨distinct, List.nodup_singleton _, ?_⟩
    intro key member last single same
    rcases List.mem_map.mp member with ⟨other, known, rfl⟩
    rw [List.mem_singleton.mp single] at same
    exact fresh ⟨other, known, same⟩

/-- The fields that are kept of those that are read. -/
theorem foldl_insertField_readable {depth : ℕ} {fields before : List (String × Json)}
    (distinct : (before.map Prod.fst).Nodup)
    (kept : ReadableFields printFloat limits depth before)
    (each : ReadableFields printFloat limits depth fields) :
    ((fields.foldl insertField before).map Prod.fst).Nodup ∧
      ReadableFields printFloat limits depth (fields.foldl insertField before) := by
  induction fields generalizing before with
  | nil => exact ⟨distinct, kept⟩
  | cons field fields ih =>
      rw [readableFields_iff, List.forall_mem_cons, ← readableFields_iff] at each
      rw [List.foldl_cons]
      refine ih (insertField_nodup distinct) ?_ each.2
      rw [readableFields_iff] at kept ⊢
      intro other member
      rcases mem_insertField member with known | rfl
      · exact kept other known
      · exact each.1

theorem yields_scanValue (prints : PrintsFloats printFloat limits) {fuel : ℕ} (depth : ℕ)
    (items : ∀ depth text, (scanItems printFloat limits fuel depth text).Yields
      (ReadableItems printFloat limits depth))
    (members : ∀ depth text, (scanMembers printFloat limits fuel depth text).Yields
      (ReadableFields printFloat limits depth)) (text : List Char) :
    (scanValue printFloat limits (fuel + 1) depth text).Yields
      (Readable printFloat limits depth) := by
  cases text with
  | nil => exact yields_fail _ _
  | cons c rest =>
      rw [scanValue]
      split
      · exact yields_bind fun read _ => yields_pure trivial
      · split
        · refine yields_bind fun _ met => ?_
          split
          · exact yields_pure ⟨within_of_meet met, List.nodup_nil, trivial⟩
          · refine yields_bind fun read ended => yields_pure ⟨within_of_meet met, ?_⟩
            exact foldl_insertField_readable List.nodup_nil trivial (members _ _ _ _ ended)
        · split
          · refine yields_bind fun _ met => ?_
            split
            · exact yields_pure ⟨within_of_meet met, trivial⟩
            · refine yields_bind fun read ended => yields_pure ⟨within_of_meet met, ?_⟩
              exact items _ _ _ _ ended
          · split
            case h_1 found => exact yields_pure (readable_of_scanConstant depth found)
            case h_2 => exact yields_scanNumber prints depth _

theorem yields_scanItems {fuel depth : ℕ}
    (value : ∀ text, (scanValue printFloat limits fuel depth text).Yields
      (Readable printFloat limits depth))
    (items : ∀ text, (scanItems printFloat limits fuel depth text).Yields
      (ReadableItems printFloat limits depth)) (text : List Char) :
    (scanItems printFloat limits (fuel + 1) depth text).Yields
      (ReadableItems printFloat limits depth) := by
  rw [scanItems]
  refine yields_bind fun item ended => ?_
  have first := value _ _ _ ended
  dsimp only
  split
  case h_1 => exact yields_pure ⟨first, trivial⟩
  case h_2 => exact yields_bind fun read ended => yields_pure ⟨first, items _ _ _ ended⟩
  case h_3 => exact yields_fail _ _

theorem yields_scanMembers {fuel depth : ℕ}
    (value : ∀ text, (scanValue printFloat limits fuel depth text).Yields
      (Readable printFloat limits depth))
    (members : ∀ text, (scanMembers printFloat limits fuel depth text).Yields
      (ReadableFields printFloat limits depth)) (text : List Char) :
    (scanMembers printFloat limits (fuel + 1) depth text).Yields
      (ReadableFields printFloat limits depth) := by
  rw [scanMembers]
  split
  case isFalse => exact yields_fail _ _
  case isTrue =>
    refine yields_bind fun key _ => ?_
    dsimp only
    split
    case h_2 => exact yields_fail _ _
    case h_1 =>
      refine yields_bind fun item ended => ?_
      have first := value _ _ _ ended
      split
      case h_1 => exact yields_pure ⟨first, trivial⟩
      case h_2 => exact yields_bind fun read ended => yields_pure ⟨first, members _ _ _ ended⟩
      case h_3 => exact yields_fail _ _

/-- What is read at a depth can be read there again. -/
theorem yields_scan (prints : PrintsFloats printFloat limits) (fuel depth : ℕ)
    (text : List Char) :
    (scanValue printFloat limits fuel depth text).Yields (Readable printFloat limits depth) ∧
    (scanItems printFloat limits fuel depth text).Yields (ReadableItems printFloat limits depth) ∧
    (scanMembers printFloat limits fuel depth text).Yields
      (ReadableFields printFloat limits depth) := by
  induction fuel generalizing depth text with
  | zero => exact ⟨yields_fail _ _, yields_fail _ _, yields_fail _ _⟩
  | succ fuel ih =>
      exact ⟨yields_scanValue prints depth (fun depth text => (ih depth text).2.1)
          (fun depth text => (ih depth text).2.2) text,
        yields_scanItems (fun text => (ih depth text).1) (fun text => (ih depth text).2.1) text,
        yields_scanMembers (fun text => (ih depth text).1) (fun text => (ih depth text).2.2) text⟩

/-- What `json.loads` returns can be read again. -/
theorem readable_of_loads (prints : PrintsFloats printFloat limits) {text : String} {value : Json}
    (read : loads printFloat limits text = .ok value) : Readable printFloat limits 0 value := by
  rw [loads] at read
  cases ended : (decode printFloat limits text.toList).outcome with
  | error failure =>
      rw [ended] at read
      cases read
  | ok found =>
      rw [ended, Except.mapError, Except.ok.injEq] at read
      rw [← read]
      rw [decode] at ended
      split at ended
      · cases ended
      · rcases outcome_bind_ok_iff.mp ended with ⟨⟨found', rest⟩, scanned, ended⟩
        dsimp only at ended
        split at ended
        · rw [outcome_pure, Except.ok.injEq] at ended
          rw [← ended]
          exact (yields_scan prints _ _ _).1 _ _ scanned
        · cases ended

end JsonDecoder

end FivegLab
