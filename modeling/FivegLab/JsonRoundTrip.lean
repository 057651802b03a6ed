import FivegLab.JsonTrailing
import FivegLab.Orchestration.Canonical

/-!
# The round trip of JSON

`json.loads` reads back what `json.dumps` prints, in every layout of the program:
the document itself, with the keys of its mappings in the order of the layout.
-/

namespace FivegLab

namespace JsonDecoder

open Decoding Json

theorem hexValue_digit : ∀ n < 16, hexValue (hexDigit n) = some n := by
  decide

theorem unit_escapeUnit {n : ℕ} {rest : List Char} (small : n < 0x10000) (more : rest ≠ []) :
    unit ((escapeUnit n).drop 2 ++ rest) = some (n, rest) := by
  rcases List.exists_cons_of_ne_nil more with ⟨c, rest, rfl⟩
  have value : ((n / 4096 % 16 * 16 + n / 256 % 16) * 16 + n / 16 % 16) * 16 + n % 16 = n := by
    omega
  have digit (m : ℕ) : hexValue (hexDigit (m % 16)) = some (m % 16) :=
    hexValue_digit _ (Nat.mod_lt _ (by omega))
  simp [escapeUnit, unit, digit, value]

theorem unicodeEscape_unit {n : ℕ} {rest : List Char} (small : n < 0x10000)
    (scalar : n < 0xd800 ∨ 0xdfff < n) (more : rest ≠ []) :
    unicodeEscape ((escapeUnit n).drop 2 ++ rest) = some (Char.ofNat n, rest) := by
  rw [unicodeEscape, unit_escapeUnit small more]
  have single : ¬(0xd800 ≤ n ∧ n < 0xdc00) := by omega
  have scalarUnit : ¬(0xd800 ≤ n ∧ n < 0xe000) := by omega
  simp only [if_neg single, unitChar, if_neg scalarUnit]

/-- Two units that are a pair of surrogates. -/
theorem unicodeEscape_pair {high low : ℕ} {rest : List Char}
    (isHigh : 0xd800 ≤ high ∧ high < 0xdc00) (isLow : 0xdc00 ≤ low ∧ low < 0xe000)
    (more : rest ≠ []) :
    unicodeEscape ((escapeUnit high).drop 2 ++ (escapeUnit low ++ rest)) =
      some (Char.ofNat (0x10000 + (high - 0xd800) * 0x400 + (low - 0xdc00)), rest) := by
  have second : escapeUnit low ++ rest ≠ [] := by
    rw [escapeUnit_eq]
    exact List.cons_ne_nil _ _
  rw [unicodeEscape, unit_escapeUnit (by omega) second]
  dsimp only
  rw [if_pos isHigh, escapeUnit_eq, List.cons_append, List.cons_append, lowSurrogate,
    unit_escapeUnit (by omega) more]
  dsimp only
  rw [if_pos isLow]

/-- A character outside the plane of 16 bits is read from its two units. -/
theorem unicodeEscape_surrogates {n : ℕ} {rest : List Char} (large : 0x10000 ≤ n)
    (small : n < 0x110000) (more : rest ≠ []) :
    unicodeEscape ((escapeUnit (0xd800 + (n - 0x10000) / 0x400)).drop 2 ++
      (escapeUnit (0xdc00 + (n - 0x10000) % 0x400) ++ rest)) = some (Char.ofNat n, rest) := by
  have total : 0x10000 + (0xd800 + (n - 0x10000) / 0x400 - 0xd800) * 0x400 +
      (0xdc00 + (n - 0x10000) % 0x400 - 0xdc00) = n := by
    omega
  rw [unicodeEscape_pair (by omega) (by omega) more, total]

/-- A character is read from its escape. -/
theorem stringRest_escapeChar (start : List Char) (fuel : ℕ) (c : Char) {rest : List Char}
    (more : rest ≠ []) :
    stringRest start (fuel + 1) (escapeChar c ++ rest) = (do
      let (chars, rest) ← stringRest start fuel rest
      return (c :: chars, rest)) := by
  have scalar : c.toNat < 0xd800 ∨ 0xdfff < c.toNat ∧ c.toNat < 0x110000 := c.valid
  have byCode {n : ℕ} (code : c.toNat = n) : Char.ofNat n = c := by
    rw [← code, Char.ofNat_toNat]
  rw [escapeChar]
  split_ifs with isQuote isSlash isNewline isReturn isTab isBackspace isFeed isPlain isUnit
  · rw [isQuote]; rfl
  · rw [isSlash]; rfl
  · rw [isNewline]; rfl
  · rw [isReturn]; rfl
  · rw [isTab]; rfl
  · rw [← byCode isBackspace]; rfl
  · rw [← byCode isFeed]; rfl
  · have visible : ¬c.toNat ≤ 0x1f := by omega
    rw [List.singleton_append, stringRest, if_neg isQuote, if_neg isSlash, if_neg visible]
  · have read : unicodeEscape ((escapeUnit c.toNat).drop 2 ++ rest) = some (c, rest) := by
      rw [unicodeEscape_unit isUnit (by omega) more, Char.ofNat_toNat]
    rw [escapeUnit_eq, List.cons_append, List.cons_append, stringRest, if_neg (by decide),
      if_pos rfl, escape, read]
    rfl
  · have read : unicodeEscape ((escapeUnit (0xd800 + (c.toNat - 0x10000) / 0x400)).drop 2 ++
        (escapeUnit (0xdc00 + (c.toNat - 0x10000) % 0x400) ++ rest)) = some (c, rest) := by
      rw [unicodeEscape_surrogates (by omega) (by omega) more, Char.ofNat_toNat]
    rw [escapeUnit_eq, List.append_assoc, List.cons_append, List.cons_append, stringRest,
      if_neg (by decide), if_pos rfl, escape, read]
    rfl

theorem stringRest_chars (start : List Char) (fuel : ℕ) (text rest : List Char)
    (enough : text.length < fuel) :
    stringRest start fuel (text.flatMap escapeChar ++ '"' :: rest) = pure (text, rest) := by
  induction text generalizing fuel with
  | nil =>
      rcases Nat.exists_eq_add_one_of_ne_zero (by omega : fuel ≠ 0) with ⟨fuel, rfl⟩
      rfl
  | cons c text ih =>
      rcases Nat.exists_eq_add_one_of_ne_zero (by omega : fuel ≠ 0) with ⟨fuel, rfl⟩
      rw [List.flatMap_cons, List.append_assoc, stringRest_escapeChar start fuel c (by simp),
        ih fuel (by simpa using enough)]
      rfl

theorem length_le_flatMap_escapeChar (text : List Char) :
    text.length ≤ (text.flatMap escapeChar).length := by
  induction text with
  | nil => simp
  | cons c text ih =>
      rcases escapeChar_opens c with ⟨symbol, rest, opens, -⟩
      rw [List.flatMap_cons, opens, List.length_append, List.length_cons, List.length_cons]
      omega

theorem toList_quote (text : String) :
    (quote text).toList = '"' :: (text.toList.flatMap escapeChar ++ ['"']) := by
  rw [quote, String.toList_ofList, List.cons_append]

/-- A quoted text is read back, whatever follows it. -/
theorem scanString_quote (text : String) (rest : List Char) :
    scanString ((quote text).toList ++ rest) = pure (text, rest) := by
  have longer := length_le_flatMap_escapeChar text.toList
  have enough : text.toList.length < ((quote text).toList ++ rest).length := by
    rw [toList_quote, List.length_append, List.length_cons, List.length_append]
    omega
  have tail : ((quote text).toList ++ rest).tail =
      text.toList.flatMap escapeChar ++ '"' :: rest := by
    rw [toList_quote, List.cons_append, List.tail_cons, List.append_assoc, List.singleton_append]
  rw [scanString, tail, stringRest_chars _ _ _ rest enough]
  exact congrArg (fun value => (⟨[], .ok (value, rest)⟩ : Decoding (String × List Char)))
    String.ofList_toList

theorem digitChar_ne_zero : ∀ n < 10, 0 < n → Nat.digitChar n ≠ '0' := by
  decide

/-- A number has no leading zeros. -/
theorem toDigits_head {n : ℕ} (positive : 0 < n) :
    ∃ c digits, Nat.toDigits 10 n = c :: digits ∧ c ≠ '0' := by
  induction n using Nat.strongRecOn with
  | ind n ih =>
      rw [Nat.toDigits_eq_if (by omega)]
      split
      case isTrue small => exact ⟨_, [], rfl, digitChar_ne_zero n small positive⟩
      case isFalse large =>
        rcases ih (n / 10) (by omega) (by omega) with ⟨c, digits, same, nonzero⟩
        rw [same]
        exact ⟨c, _, rfl, nonzero⟩

theorem isDigit_of_mem_toDigits {n : ℕ} {c : Char} (member : c ∈ Nat.toDigits 10 n) :
    isDigit c = true := by
  have digit := Nat.isDigit_of_mem_toDigits (by omega) (by omega) member
  rw [isDigit, Bool.and_eq_true, decide_eq_true_eq, decide_eq_true_eq]
  simp only [Char.isDigit, Bool.and_eq_true, decide_eq_true_eq] at digit
  exact digit

theorem wholeDigits_toDigits (n : ℕ) : wholeDigits (Nat.toDigits 10 n) = Nat.toDigits 10 n := by
  rcases Nat.eq_zero_or_pos n with rfl | positive
  · rfl
  · rcases toDigits_head positive with ⟨c, digits, same, nonzero⟩
    have all : (Nat.toDigits 10 n).takeWhile isDigit = Nat.toDigits 10 n :=
      List.takeWhile_eq_self_iff.mpr fun d member => isDigit_of_mem_toDigits member
    rw [same] at all ⊢
    rw [wholeDigits, all]
    intro rest zero
    exact nonzero (List.cons.inj zero).1

variable {printFloat : String → String} {limits : Limits}

/-- The digits of an integer are within the limit. -/
def ShortInt (limits : Limits) (value : ℤ) : Prop :=
  (Nat.toDigits 10 value.natAbs).length ≤ limits.digits

theorem scanNumber_digits {sign text : List Char} {n : ℕ} (split : splitSign text =
    (sign, Nat.toDigits 10 n)) (short : (Nat.toDigits 10 n).length ≤ limits.digits) :
    (scanNumber printFloat limits text).outcome =
      .ok (.int (if sign = [] then n else -n), []) := by
  have value : decimalValue (Nat.toDigits 10 n) = n := Nat.ofDigitChars_ten_toDigits
  have within : (Met.integer (Nat.toDigits 10 n).length).Within limits := short
  rw [scanNumber, split]
  dsimp only
  rw [wholeDigits_toDigits, List.drop_length, if_neg Nat.toDigits_ne_nil, if_pos ⟨rfl, rfl⟩, value,
    meet, if_pos within]
  rfl

theorem splitSign_toDigits (n : ℕ) : splitSign (Nat.toDigits 10 n) = ([], Nat.toDigits 10 n) := by
  unfold splitSign
  split
  case h_1 rest same =>
    have member : '-' ∈ Nat.toDigits 10 n := by
      rw [same]
      exact List.mem_cons_self
    exact absurd (isDigit_of_mem_toDigits member) (by decide)
  case h_2 => rfl

theorem scanNumber_int {value : ℤ} (short : ShortInt limits value) :
    (scanNumber printFloat limits (toString value).toList).outcome = .ok (.int value, []) := by
  rw [toString_int]
  split
  case isTrue positive =>
    have digits : value.natAbs = value.toNat := by omega
    rw [ShortInt, digits] at short
    rw [Nat.repr_eq_ofList_toDigits, String.toList_ofList,
      scanNumber_digits (splitSign_toDigits _) short, if_pos rfl, Int.toNat_of_nonneg positive]
  case isFalse negative =>
    have digits : value.natAbs = (-value).toNat := by omega
    rw [ShortInt, digits] at short
    have signed : splitSign ("-" ++ (-value).toNat.repr).toList =
        (['-'], Nat.toDigits 10 (-value).toNat) := by
      simp [Nat.repr_eq_ofList_toDigits, splitSign]
    have same : -((-value).toNat : ℤ) = value := by omega
    rw [scanNumber_digits signed short, if_neg (List.cons_ne_nil _ _), same]

/-- A float is printed as a word, or as a literal of the same float. -/
def FloatReads (printFloat : String → String) (limits : Limits) (printed : String) : Prop :=
  (printed, .float printed) ∈ constants ∨
    (scanNumber printFloat limits printed.toList).outcome = .ok (.float printed, [])

variable (printFloat limits) in
mutual

/-- At a depth, the document is within the limits, the keys of every mapping differ, and
its floats are printed as they are read. -/
def Readable (depth : ℕ) : Json → Prop
  | .int value => ShortInt limits value
  | .float printed => FloatReads printFloat limits printed
  | .array items => depth + 1 ≤ limits.depth ∧ ReadableItems (depth + 1) items
  | .object fields => depth + 1 ≤ limits.depth ∧ (fields.map Prod.fst).Nodup ∧
      ReadableFields (depth + 1) fields
  | _ => True

def ReadableItems (depth : ℕ) : List Json → Prop
  | [] => True
  | item :: items => Readable depth item ∧ ReadableItems depth items

def ReadableFields (depth : ℕ) : List (String × Json) → Prop
  | [] => True
  | (_, value) :: fields => Readable depth value ∧ ReadableFields depth fields

end

theorem readableItems_iff {depth : ℕ} {items : List Json} :
    ReadableItems printFloat limits depth items ↔
      ∀ item ∈ items, Readable printFloat limits depth item := by
  induction items with
  | nil => simp [ReadableItems]
  | cons item items ih => rw [ReadableItems, ih, List.forall_mem_cons]

theorem readableFields_iff {depth : ℕ} {fields : List (String × Json)} :
    ReadableFields printFloat limits depth fields ↔
      ∀ field ∈ fields, Readable printFloat limits depth field.2 := by
  induction fields with
  | nil => simp [ReadableFields]
  | cons field fields ih => rw [ReadableFields, ih, List.forall_mem_cons]

mutual

/-- The document with the keys of its mappings in the order of the layout. -/
def ordered (layout : Layout) : Json → Json
  | .array items => .array (orderedItems layout items)
  | .object fields => .object (layout.order (orderedFields layout fields))
  | value => value

def orderedItems (layout : Layout) : List Json → List Json
  | [] => []
  | item :: items => ordered layout item :: orderedItems layout items

def orderedFields (layout : Layout) : List (String × Json) → List (String × Json)
  | [] => []
  | (key, value) :: fields => (key, ordered layout value) :: orderedFields layout fields

end

theorem orderedItems_eq (layout : Layout) (items : List Json) :
    orderedItems layout items = items.map (ordered layout) := by
  induction items with
  | nil => rfl
  | cons item items ih => rw [orderedItems, ih, List.map_cons]

theorem orderedFields_eq (layout : Layout) (fields : List (String × Json)) :
    orderedFields layout fields = fields.map (Prod.map id (ordered layout)) := by
  induction fields with
  | nil => rfl
  | cons field fields ih => rw [orderedFields, ih, List.map_cons, Prod.map, id]

/-- A layout that does not sort leaves the document as it is. -/
theorem ordered_of_unsorted {layout : Layout} (unsorted : layout.sortKeys = false) (value : Json) :
    ordered layout value = value := by
  induction value using Json.induction with
  | array items ih =>
      rw [ordered, orderedItems_eq, List.map_congr_left ih, List.map_id']
  | object fields ih =>
      have same : ∀ field ∈ fields, Prod.map id (ordered layout) field = field := by
        intro field member
        rw [Prod.map, ih field member, id]
      rw [ordered, orderedFields_eq, Layout.order, if_neg (by simp [unsorted]),
        List.map_congr_left same, List.map_id']
  | _ => rfl

/-- Different keys stay in the order in which they are read. -/
theorem foldl_insertField {before fields : List (String × Json)}
    (distinct : ((before ++ fields).map Prod.fst).Nodup) :
    fields.foldl insertField before = before ++ fields := by
  induction fields generalizing before with
  | nil => rw [List.foldl_nil, List.append_nil]
  | cons field fields ih =>
      have fresh : ¬∃ other ∈ before, other.1 = field.1 := by
        intro clash
        rcases clash with ⟨other, member, same⟩
        rw [List.map_append, List.nodup_append] at distinct
        exact distinct.2.2 _ (List.mem_map_of_mem member) _
          (List.mem_map_of_mem List.mem_cons_self) same
      rw [List.foldl_cons, insertField, if_neg fresh, ih (by simpa using distinct),
        List.append_assoc, List.singleton_append]

/-- A mark, and white space behind it. -/
def Separates (mark : Char) (text : String) : Prop :=
  ∃ blanks, text.toList = mark :: blanks ∧ ∀ c ∈ blanks, isSpace c = true

/-- The separators of the layout are those of JSON. -/
structure Standard (layout : Layout) : Prop where
  items : Separates ',' layout.itemSeparator
  keys : Separates ':' layout.keySeparator

theorem standard_plain : Standard .plain :=
  ⟨⟨[' '], rfl, by simp [isSpace]⟩, ⟨[' '], rfl, by simp [isSpace]⟩⟩

theorem standard_indented : Standard .indented :=
  ⟨⟨[], rfl, by simp⟩, ⟨[' '], rfl, by simp [isSpace]⟩⟩

theorem break_blank (layout : Layout) (depth : ℕ) :
    ∀ c ∈ (layout.break depth).toList, isSpace c = true := by
  intro c member
  rw [Layout.break] at member
  split at member
  · simp at member
  · simp only [String.toList_append, List.mem_append, String.toList_ofList,
      List.mem_replicate] at member
    rcases member with newline | ⟨-, rfl⟩
    · rw [List.mem_singleton.mp newline]
      decide
    · decide

/-- The text does not begin with white space. -/
def Shown (text : List Char) : Prop := ∀ c, text.head? = some c → isSpace c = false

theorem skipSpace_blank {blanks text : List Char} (blank : ∀ c ∈ blanks, isSpace c = true)
    (shown : Shown text) : skipSpace (blanks ++ text) = text := by
  induction blanks with
  | nil =>
      cases text with
      | nil => rfl
      | cons c text => rw [List.nil_append, skipSpace, List.dropWhile_cons, shown c rfl]; rfl
  | cons c blanks ih =>
      rw [List.forall_mem_cons] at blank
      rw [List.cons_append, skipSpace, List.dropWhile_cons, if_pos blank.1]
      exact ih blank.2

theorem shown_cons {c : Char} (shown : isSpace c = false) (text : List Char) :
    Shown (c :: text) := by
  intro d head
  rw [List.head?_cons, Option.some.injEq] at head
  rwa [← head]

theorem isDigit_of_blank {c : Char} (space : isSpace c = true) :
    isDigit c = false ∧ c ∉ ['.', 'e', 'E', '+', '-'] := by
  simp only [isSpace, Bool.or_eq_true, decide_eq_true_eq] at space
  rcases space with ((rfl | rfl) | rfl) | rfl <;> decide

/-- White space, and a mark behind it, end a number. -/
theorem ends_blank {blanks : List Char} {mark : Char} (blank : ∀ c ∈ blanks, isSpace c = true)
    (marked : mark ∈ [',', ']', '\x7d']) (rest : List Char) : Ends (blanks ++ mark :: rest) := by
  have closes : [',', ']', '\x7d'].all (fun c =>
      !isDigit c && !(['.', 'e', 'E', '+', '-'].contains c)) = true := by
    decide
  intro c head
  cases blanks with
  | nil =>
      rw [List.nil_append, List.head?_cons, Option.some.injEq] at head
      have closed := List.all_eq_true.mp closes mark marked
      rw [head] at closed
      simpa using closed
  | cons d blanks =>
      rw [List.cons_append, List.head?_cons, Option.some.injEq] at head
      rw [← head]
      exact isDigit_of_blank (blank d List.mem_cons_self)

theorem outcome_bind {α β : Type} {first : Decoding α} {next : α → Decoding β} {value : α}
    (ended : first.outcome = .ok value) : (first >>= next).outcome = (next value).outcome := by
  simp only [bind, ended]

theorem outcome_meet {met : Met} (within : met.Within limits) :
    (meet limits met).outcome = .ok () := by
  rw [meet, if_pos within]

/-- With enough fuel, the part reads a value in front of the rest. -/
def ReadsTo {α : Type} (part : ℕ → Decoding (α × List Char)) (value : α) (rest : List Char) :
    Prop :=
  ∃ least, ∀ fuel, least ≤ fuel → (part fuel).outcome = .ok (value, rest)

section

variable {depth : ℕ} {blanks close : List Char}

/-- Texts between separators, in front of a closing. -/
def joined (blanks : List Char) (texts : List (List Char)) (after : List Char) : List Char :=
  (',' :: blanks).intercalate texts ++ after

theorem joined_singleton (blanks text after : List Char) :
    joined blanks [text] after = text ++ after := by
  rw [joined, List.intercalate_singleton]

theorem joined_cons_cons (blanks text second : List Char) (texts : List (List Char))
    (after : List Char) : joined blanks (text :: second :: texts) after =
      text ++ ',' :: (blanks ++ joined blanks (second :: texts) after) := by
  rw [joined, joined, List.intercalate_cons_cons]
  simp only [List.append_assoc, List.cons_append]

theorem joined_cons (blanks text : List Char) (texts : List (List Char)) (after : List Char) :
    ∃ more, joined blanks (text :: texts) after = text ++ more := by
  rcases texts with _ | ⟨second, texts⟩
  · exact ⟨_, joined_singleton blanks text after⟩
  · exact ⟨_, joined_cons_cons blanks text second texts after⟩

theorem shown_joined {text : List Char} {texts : List (List Char)} {after : List Char}
    (shown : ∀ rest, Shown (text ++ rest)) : Shown (joined blanks (text :: texts) after) := by
  rcases joined_cons blanks text texts after with ⟨more, same⟩
  rw [same]
  exact shown more

theorem skipSpace_mark {mark : Char} (visible : isSpace mark = false) (rest : List Char) :
    skipSpace (mark :: rest) = mark :: rest := by
  rw [skipSpace, List.dropWhile_cons, visible]
  rfl

/-- The items of a list, between separators. -/
theorem readsTo_items {text : Json → List Char} {result : Json → Json} {items : List Json}
    (some : items ≠ []) (separator : ∀ c ∈ blanks, isSpace c = true)
    (closing : ∀ c ∈ close, isSpace c = true)
    (shown : ∀ item ∈ items, ∀ rest, Shown (text item ++ rest))
    (each : ∀ item ∈ items, ∀ rest, Ends rest → ReadsTo (fun fuel =>
      scanValue printFloat limits fuel depth (text item ++ rest)) (result item) rest)
    (rest : List Char) :
    ReadsTo (fun fuel => scanItems printFloat limits fuel depth
      (joined blanks (items.map text) (close ++ ']' :: rest))) (items.map result) rest := by
  induction items with
  | nil => exact absurd rfl some
  | cons item items ih =>
      rw [List.forall_mem_cons] at each shown
      rcases items with _ | ⟨second, items⟩
      · have skipped : skipSpace (close ++ ']' :: rest) = ']' :: rest :=
          skipSpace_blank closing (shown_cons (by decide) rest)
        rcases each.1 _ (ends_blank closing (by decide : ']' ∈ [',', ']', '\x7d']) rest) with
          ⟨least, reads⟩
        refine ⟨least + 1, fun fuel enough => ?_⟩
        rcases Nat.exists_eq_add_of_le' enough with ⟨fuel, rfl⟩
        rw [List.map_singleton, joined_singleton]
        change (scanItems printFloat limits (fuel + least + 1) depth _).outcome = _
        rw [scanItems]
        refine outcome_bind_ok_iff.mpr ⟨_, reads _ (by omega), ?_⟩
        simp only [skipped]
        rfl
      · have after : Shown (joined blanks (text second :: items.map text) (close ++ ']' :: rest)) :=
          shown_joined (shown.2 second List.mem_cons_self)
        have comma (rest : List Char) : Ends (',' :: rest) :=
          ends_blank (List.forall_mem_nil _) (by decide : ',' ∈ [',', ']', '\x7d']) rest
        rcases ih (List.cons_ne_nil _ _) shown.2 each.2 with ⟨more, readsMore⟩
        rcases each.1 _ (comma _) with ⟨least, reads⟩
        refine ⟨max least more + 1, fun fuel enough => ?_⟩
        rcases Nat.exists_eq_add_of_le' enough with ⟨fuel, rfl⟩
        rw [List.map_cons, List.map_cons, joined_cons_cons]
        change (scanItems printFloat limits (fuel + max least more + 1) depth _).outcome = _
        rw [scanItems]
        refine outcome_bind_ok_iff.mpr ⟨_, reads _ (by omega), ?_⟩
        simp only [skipSpace_mark (by decide : isSpace ',' = false),
          skipSpace_blank separator after]
        exact outcome_bind_ok_iff.mpr ⟨_, readsMore _ (by omega), rfl⟩

/-- A field as it is printed, with its value. -/
def fieldText (blanks : List Char) (text : Json → List Char) (field : String × Json) : List Char :=
  (quote field.1).toList ++ ':' :: (blanks ++ text field.2)

theorem fieldText_append (blanks : List Char) (text : Json → List Char) (field : String × Json)
    (rest : List Char) : fieldText blanks text field ++ rest =
      (quote field.1).toList ++ ':' :: (blanks ++ (text field.2 ++ rest)) := by
  rw [fieldText, List.append_assoc, List.cons_append, List.append_assoc]

theorem quote_append (key : String) (rest : List Char) :
    (quote key).toList ++ rest = '"' :: (key.toList.flatMap escapeChar ++ '"' :: rest) := by
  rw [toList_quote, List.cons_append, List.append_assoc, List.singleton_append]

variable (printFloat limits) in
/-- What is read behind the value of a field. -/
def fieldRest (fuel depth : ℕ) (key : String) (value : Json) (after : List Char) :
    Decoding (List (String × Json) × List Char) :=
  match skipSpace after with
  | '\x7d' :: rest => return ([(key, value)], rest)
  | ',' :: rest => do
      let (fields, rest) ← scanMembers printFloat limits fuel depth (skipSpace rest)
      return ((key, value) :: fields, rest)
  | rest => fail "Expecting ',' delimiter" rest

/-- The first field of a mapping, and what follows its value. -/
theorem scanMembers_field {fuel : ℕ} {colon rest after : List Char} {key : String} {value : Json}
    {valueText : List Char} (blank : ∀ c ∈ colon, isSpace c = true)
    (shown : Shown (valueText ++ rest))
    (reads : (scanValue printFloat limits fuel depth (valueText ++ rest)).outcome =
      .ok (value, after)) :
    (scanMembers printFloat limits (fuel + 1) depth
      ((quote key).toList ++ ':' :: (colon ++ (valueText ++ rest)))).outcome =
      (fieldRest printFloat limits fuel depth key value after).outcome := by
  have quoted : ((quote key).toList ++ ':' :: (colon ++ (valueText ++ rest))).head? = some '"' := by
    rw [quote_append, List.head?_cons]
  rw [scanMembers, if_pos quoted, scanString_quote, outcome_bind rfl]
  simp only [skipSpace_mark (by decide : isSpace ':' = false), skipSpace_blank blank shown]
  exact (outcome_bind reads).trans rfl

/-- The fields of a mapping, between separators. -/
theorem readsTo_members {colon : List Char} {text : Json → List Char} {result : Json → Json}
    {fields : List (String × Json)} (some : fields ≠ [])
    (separator : ∀ c ∈ blanks, isSpace c = true) (keys : ∀ c ∈ colon, isSpace c = true)
    (closing : ∀ c ∈ close, isSpace c = true)
    (shown : ∀ field ∈ fields, ∀ rest, Shown (text field.2 ++ rest))
    (each : ∀ field ∈ fields, ∀ rest, Ends rest → ReadsTo (fun fuel =>
      scanValue printFloat limits fuel depth (text field.2 ++ rest)) (result field.2) rest)
    (rest : List Char) :
    ReadsTo (fun fuel => scanMembers printFloat limits fuel depth
      (joined blanks (fields.map (fieldText colon text)) (close ++ '\x7d' :: rest)))
      (fields.map (Prod.map id result)) rest := by
  induction fields with
  | nil => exact absurd rfl some
  | cons field fields ih =>
      rw [List.forall_mem_cons] at each shown
      rcases fields with _ | ⟨second, fields⟩
      · have skipped : skipSpace (close ++ '\x7d' :: rest) = '\x7d' :: rest :=
          skipSpace_blank closing (shown_cons (by decide) rest)
        rcases each.1 _ (ends_blank closing (by decide : '\x7d' ∈ [',', ']', '\x7d']) rest) with
          ⟨least, reads⟩
        refine ⟨least + 1, fun fuel enough => ?_⟩
        rcases Nat.exists_eq_add_of_le' enough with ⟨fuel, rfl⟩
        rw [List.map_singleton, joined_singleton, fieldText_append]
        change (scanMembers printFloat limits (fuel + least + 1) depth _).outcome = _
        rw [scanMembers_field keys (shown.1 _) (reads _ (by omega)), fieldRest]
        simp only [skipped]
        rfl
      · have quoted (rest : List Char) : Shown (fieldText colon text second ++ rest) := by
          rw [fieldText_append, quote_append]
          exact shown_cons (by decide) _
        have after : Shown (joined blanks (fieldText colon text second ::
            fields.map (fieldText colon text)) (close ++ '\x7d' :: rest)) := shown_joined quoted
        have comma (rest : List Char) : Ends (',' :: rest) :=
          ends_blank (List.forall_mem_nil _) (by decide : ',' ∈ [',', ']', '\x7d']) rest
        rcases ih (List.cons_ne_nil _ _) shown.2 each.2 with ⟨more, readsMore⟩
        rcases each.1 _ (comma _) with ⟨least, reads⟩
        refine ⟨max least more + 1, fun fuel enough => ?_⟩
        rcases Nat.exists_eq_add_of_le' enough with ⟨fuel, rfl⟩
        rw [List.map_cons, List.map_cons, joined_cons_cons, fieldText_append]
        change (scanMembers printFloat limits (fuel + max least more + 1) depth _).outcome = _
        rw [scanMembers_field keys (shown.1 _) (reads _ (by omega)), fieldRest]
        simp only [skipSpace_mark (by decide : isSpace ',' = false),
          skipSpace_blank separator after]
        exact outcome_bind_ok_iff.mpr ⟨_, readsMore _ (by omega), rfl⟩

end

/-- What is printed between brackets, when there are items. -/
theorem toList_enclose {layout : Layout} {blanks : List Char} (indent : ℕ) {left right : String}
    {opening : Char} {texts : List String} (separator : layout.itemSeparator.toList = ',' :: blanks)
    (opens : left.toList = [opening]) (some : texts ≠ []) (rest : List Char) :
    (enclose layout indent left right texts).toList ++ rest =
      opening :: ((layout.break (indent + 1)).toList ++
        joined (blanks ++ (layout.break (indent + 1)).toList) (texts.map String.toList)
          ((layout.break indent).toList ++ (right.toList ++ rest))) := by
  rw [enclose, if_neg some]
  simp only [String.toList_append, String.toList_intercalate, separator, opens, joined,
    List.append_assoc, List.cons_append, List.nil_append]

theorem scanConstant_constant {constant : String × Json} (member : constant ∈ constants)
    (rest : List Char) : scanConstant (constant.1.toList ++ rest) = some (constant.2, rest) := by
  simp only [constants, List.mem_cons, List.not_mem_nil, or_false] at member
  rcases member with rfl | rfl | rfl | rfl | rfl | rfl <;> rfl

/-- A word is read in front of anything. -/
theorem readsTo_constant {constant : String × Json} (member : constant ∈ constants) (depth : ℕ)
    (rest : List Char) : ReadsTo (fun fuel =>
      scanValue printFloat limits fuel depth (constant.1.toList ++ rest)) constant.2 rest := by
  refine ⟨1, fun fuel enough => ?_⟩
  rcases Nat.exists_eq_add_of_le' enough with ⟨fuel, rfl⟩
  have found := scanConstant_constant member rest
  have letters : constants.all (fun constant => constant.1.toList.head?.any fun c =>
      c ≠ '"' ∧ c ≠ '\x7b' ∧ c ≠ '[') = true := by
    decide +kernel
  have letter := List.all_eq_true.mp letters constant member
  generalize constant.1.toList = word at found letter
  rcases word with _ | ⟨c, word⟩
  · cases letter
  · change (scanValue printFloat limits (fuel + 1) depth (c :: (word ++ rest))).outcome = _
    rw [List.head?_cons, Option.any_some, decide_eq_true_eq] at letter
    rw [scanValue, if_neg letter.1, if_neg letter.2.1, if_neg letter.2.2, ← List.cons_append, found]
    rfl

/-- A number begins with a digit, perhaps behind its sign. -/
theorem scanNumber_leads {text rest : List Char} {value : Json}
    (read : (scanNumber printFloat limits text).outcome = .ok (value, rest)) :
    ∃ c tail, text = c :: tail ∧
      (isDigit c = true ∨ c = '-' ∧ ∃ d digits, tail = d :: digits ∧ isDigit d = true) := by
  have whole : wholeDigits (splitSign text).2 ≠ [] := by
    intro empty
    rw [scanNumber] at read
    dsimp only at read
    rw [if_pos empty] at read
    cases read
  have digits (unsigned : List Char) (some : wholeDigits unsigned ≠ []) :
      ∃ d rest, unsigned = d :: rest ∧ isDigit d = true := by
    unfold wholeDigits at some
    split at some
    case h_1 rest => exact ⟨'0', rest, rfl, by decide⟩
    case h_2 =>
      rcases unsigned with _ | ⟨d, rest⟩
      · exact absurd rfl some
      · refine ⟨d, rest, rfl, ?_⟩
        rw [List.takeWhile_cons] at some
        split at some
        · assumption
        · exact absurd rfl some
  unfold splitSign at whole
  split at whole
  case h_1 rest =>
    rcases digits rest whole with ⟨d, more, same, digit⟩
    exact ⟨'-', rest, rfl, .inr ⟨rfl, d, more, same, digit⟩⟩
  case h_2 =>
    rcases digits text whole with ⟨d, more, same, digit⟩
    exact ⟨d, more, same, .inl digit⟩

/-- The text does not begin like a number. -/
def wordly : List Char → Bool
  | '-' :: rest => rest.head?.any (!isDigit ·)
  | c :: _ => !isDigit c
  | [] => false

theorem scanConstant_number {c : Char} {text : List Char}
    (leads : isDigit c = true ∨ c = '-' ∧ ∃ d digits, text = d :: digits ∧ isDigit d = true) :
    scanConstant (c :: text) = none := by
  have words : constants.all (fun constant => wordly constant.1.toList) = true := by decide +kernel
  rw [scanConstant, Option.map_eq_none_iff, List.find?_eq_none]
  intro constant member
  have word := List.all_eq_true.mp words constant member
  generalize constant.1.toList = letters at word
  rw [decide_eq_true_eq]
  intro begins
  unfold wordly at word
  split at word
  case h_1 rest =>
    rw [List.cons_prefix_cons] at begins
    rcases begins with ⟨rfl, begins⟩
    rcases leads with digit | ⟨-, d, digits, rfl, digit⟩
    · exact absurd digit (by decide)
    · rcases rest with _ | ⟨e, rest⟩
      · cases word
      · rw [List.cons_prefix_cons] at begins
        rw [List.head?_cons, Option.any_some, begins.1, digit] at word
        cases word
  case h_2 d rest unsigned =>
    rw [List.cons_prefix_cons] at begins
    rcases begins with ⟨rfl, begins⟩
    rcases leads with digit | ⟨sign, -⟩
    · rw [digit] at word
      cases word
    · exact unsigned sign
  case h_3 => cases word

/-- A number is read in front of what does not go on with it. -/
theorem readsTo_number {text : List Char} {value : Json}
    (read : (scanNumber printFloat limits text).outcome = .ok (value, [])) (depth : ℕ)
    {rest : List Char} (ends : Ends rest) :
    ReadsTo (fun fuel => scanValue printFloat limits fuel depth (text ++ rest)) value rest := by
  refine ⟨1, fun fuel enough => ?_⟩
  rcases Nat.exists_eq_add_of_le' enough with ⟨fuel, rfl⟩
  have longer := ends.scanNumber_also _ _ read
  rcases scanNumber_leads read with ⟨c, tail, rfl, leads⟩
  have leads' : isDigit c = true ∨ c = '-' ∧ ∃ d digits, tail ++ rest = d :: digits ∧
      isDigit d = true := by
    refine leads.imp_right ?_
    rintro ⟨sign, d, digits, rfl, digit⟩
    exact ⟨sign, d, digits ++ rest, rfl, digit⟩
  have noMark : c ≠ '"' ∧ c ≠ '\x7b' ∧ c ≠ '[' := by
    rcases leads with digit | ⟨rfl, -⟩
    · refine ⟨?_, ?_, ?_⟩ <;> rintro rfl <;> exact absurd digit (by decide)
    · decide
  change (scanValue printFloat limits (fuel + 1) depth (c :: (tail ++ rest))).outcome = _
  rw [scanValue, if_neg noMark.1, if_neg noMark.2.1, if_neg noMark.2.2, scanConstant_number leads']
  exact longer

/-- A value does not begin with white space, a closing bracket or a byte order mark. -/
def Opening (c : Char) : Prop := isSpace c = false ∧ c ∉ [']', Char.ofNat 0xfeff]

instance : DecidablePred Opening := fun _ => inferInstanceAs (Decidable (_ ∧ _))

def Opens (text : List Char) : Prop := ∃ c tail, text = c :: tail ∧ Opening c

theorem Opens.shown {text : List Char} (opens : Opens text) (rest : List Char) :
    Shown (text ++ rest) := by
  rcases opens with ⟨c, tail, rfl, visible, -⟩
  exact shown_cons visible _

theorem opens_number {text rest : List Char} {value : Json}
    (read : (scanNumber printFloat limits text).outcome = .ok (value, rest)) : Opens text := by
  rcases scanNumber_leads read with ⟨c, tail, rfl, digit | ⟨rfl, -⟩⟩
  · refine ⟨c, tail, rfl, ?_, ?_⟩
    · cases space : isSpace c with
      | false => rfl
      | true => exact absurd digit (by simp [(isDigit_of_blank space).1])
    · intro member
      rw [List.mem_cons, List.mem_singleton] at member
      rcases member with rfl | rfl <;> exact absurd digit (by decide)
  · exact ⟨'-', tail, rfl, by decide⟩

theorem opens_enclose {layout : Layout} {indent : ℕ} {left right : String} {opening : Char}
    {texts : List String} (opens : left.toList = [opening]) (other : Opening opening) :
    Opens (enclose layout indent left right texts).toList := by
  rw [enclose]
  split
  · rw [String.toList_append, opens]
    exact ⟨opening, _, rfl, other⟩
  · simp only [String.toList_append, opens, List.append_assoc, List.singleton_append]
    exact ⟨opening, _, rfl, other⟩

theorem opens_constant {word : String} {value : Json} (member : (word, value) ∈ constants) :
    Opens word.toList := by
  have letters : constants.all (fun constant => constant.1.toList.head?.any fun c =>
      Opening c) = true := by
    decide +kernel
  have letter := List.all_eq_true.mp letters (word, value) member
  rcases same : word.toList with _ | ⟨c, tail⟩
  · rw [same] at letter
    cases letter
  · rw [same, List.head?_cons, Option.any_some, decide_eq_true_eq] at letter
    exact ⟨c, tail, rfl, letter⟩

theorem opens_dumps (layout : Layout) (indent : ℕ) {level : ℕ} {value : Json}
    (readable : Readable printFloat limits level value) :
    Opens (value.dumps layout indent).toList := by
  cases value with
  | null => exact opens_constant (by simp [constants] : ("null", Json.null) ∈ constants)
  | bool value =>
      cases value with
      | true => exact opens_constant (by simp [constants] : ("true", Json.bool true) ∈ constants)
      | false => exact opens_constant (by simp [constants] : ("false", Json.bool false) ∈ constants)
  | int value =>
      have read : (scanNumber printFloat limits (toString value).toList).outcome =
          .ok (.int value, []) := scanNumber_int readable
      exact opens_number read
  | float printed =>
      rcases readable with word | read
      · exact opens_constant word
      · exact opens_number read
  | string value =>
      rw [dumps, toList_quote]
      exact ⟨'"', _, rfl, by decide⟩
  | array items => exact opens_enclose rfl (by decide)
  | object fields => exact opens_enclose rfl (by decide)

/-- A list of items that are read is read. -/
theorem readsTo_array {level : ℕ} {blanks body rest : List Char} {items : List Json}
    (within : level + 1 ≤ limits.depth) (blank : ∀ c ∈ blanks, isSpace c = true)
    (opens : Opens body)
    (reads : ReadsTo (fun fuel => scanItems printFloat limits fuel (level + 1) body) items rest) :
    ReadsTo (fun fuel => scanValue printFloat limits fuel level ('[' :: (blanks ++ body)))
      (.array items) rest := by
  rcases reads with ⟨least, reads⟩
  refine ⟨least + 1, fun fuel enough => ?_⟩
  rcases Nat.exists_eq_add_of_le' enough with ⟨fuel, rfl⟩
  change (scanValue printFloat limits (fuel + least + 1) level _).outcome = _
  have met : (Met.container "array" (level + 1)).Within limits := within
  have shown : skipSpace (blanks ++ body) = body := by
    have visible := opens.shown []
    rw [List.append_nil] at visible
    exact skipSpace_blank blank visible
  have open_ : body.head? ≠ some ']' := by
    rcases opens with ⟨c, tail, rfl, -, other⟩
    rw [List.head?_cons, ne_eq, Option.some.injEq]
    rintro rfl
    exact other List.mem_cons_self
  rw [scanValue, if_neg (by decide), if_neg (by decide), if_pos rfl,
    outcome_bind (outcome_meet met), shown, if_neg open_, outcome_bind (reads _ (by omega))]
  rfl

/-- A mapping of fields that are read is read. -/
theorem readsTo_object {level : ℕ} {blanks body rest : List Char} {fields : List (String × Json)}
    (within : level + 1 ≤ limits.depth) (distinct : (fields.map Prod.fst).Nodup)
    (blank : ∀ c ∈ blanks, isSpace c = true) (quoted : ∃ tail, body = '"' :: tail)
    (reads : ReadsTo (fun fuel => scanMembers printFloat limits fuel (level + 1) body) fields
      rest) :
    ReadsTo (fun fuel => scanValue printFloat limits fuel level ('\x7b' :: (blanks ++ body)))
      (.object fields) rest := by
  rcases reads with ⟨least, reads⟩
  rcases quoted with ⟨tail, rfl⟩
  refine ⟨least + 1, fun fuel enough => ?_⟩
  rcases Nat.exists_eq_add_of_le' enough with ⟨fuel, rfl⟩
  change (scanValue printFloat limits (fuel + least + 1) level _).outcome = _
  have met : (Met.container "object" (level + 1)).Within limits := within
  rw [scanValue, if_neg (by decide), if_pos rfl, outcome_bind (outcome_meet met),
    skipSpace_blank blank (shown_cons (by decide) tail), if_neg (by simp),
    outcome_bind (reads _ (by omega))]
  dsimp only
  rw [foldl_insertField (by simpa using distinct)]
  rfl

theorem readsTo_array_nil {level : ℕ} (within : level + 1 ≤ limits.depth) (rest : List Char) :
    ReadsTo (fun fuel => scanValue printFloat limits fuel level ('[' :: ']' :: rest)) (.array [])
      rest := by
  refine ⟨1, fun fuel enough => ?_⟩
  rcases Nat.exists_eq_add_of_le' enough with ⟨fuel, rfl⟩
  have met : (Met.container "array" (level + 1)).Within limits := within
  change (scanValue printFloat limits (fuel + 1) level _).outcome = _
  rw [scanValue, if_neg (by decide), if_neg (by decide), if_pos rfl,
    outcome_bind (outcome_meet met), skipSpace_mark (by decide), List.head?_cons, if_pos rfl]
  rfl

theorem readsTo_object_nil {level : ℕ} (within : level + 1 ≤ limits.depth) (rest : List Char) :
    ReadsTo (fun fuel => scanValue printFloat limits fuel level ('\x7b' :: '\x7d' :: rest))
      (.object []) rest := by
  refine ⟨1, fun fuel enough => ?_⟩
  rcases Nat.exists_eq_add_of_le' enough with ⟨fuel, rfl⟩
  have met : (Met.container "object" (level + 1)).Within limits := within
  change (scanValue printFloat limits (fuel + 1) level _).outcome = _
  rw [scanValue, if_neg (by decide), if_pos rfl, outcome_bind (outcome_meet met),
    skipSpace_mark (by decide), List.head?_cons, if_pos rfl]
  rfl

theorem opens_joined {blanks text : List Char} (opens : Opens text) (texts : List (List Char))
    (after : List Char) : Opens (joined blanks (text :: texts) after) := by
  rcases opens with ⟨c, tail, rfl, opens⟩
  rcases joined_cons blanks (c :: tail) texts after with ⟨more, same⟩
  rw [same]
  exact ⟨c, _, rfl, opens⟩

theorem toList_enclose_nil (layout : Layout) (indent : ℕ) (left right : String) :
    (enclose layout indent left right []).toList = left.toList ++ right.toList := by
  rw [enclose, if_pos rfl, String.toList_append]

/-- The texts of the fields of a mapping. -/
theorem fieldTexts_dumps {layout : Layout} {colon : List Char} (indent : ℕ)
    (colons : layout.keySeparator.toList = ':' :: colon) (fields : List (String × Json)) :
    ((layout.order (dumpFields layout indent fields)).map fun field =>
      quote field.1 ++ layout.keySeparator ++ field.2).map String.toList =
      (layout.order fields).map
        (fieldText colon fun value => (value.dumps layout indent).toList) := by
  rw [dumpFields_eq, Layout.order_map, List.map_map, List.map_map]
  refine List.map_congr_left fun field _ => ?_
  simp only [Function.comp, Prod.map, id, String.toList_append, colons, fieldText,
    List.append_assoc, List.cons_append]

/-- What is printed of a document is read in front of anything that ends a number. -/
theorem readsTo_dumps {layout : Layout} (standard : Standard layout) (value : Json) :
    ∀ {level : ℕ} (indent : ℕ), Readable printFloat limits level value → ∀ rest, Ends rest →
      ReadsTo (fun fuel => scanValue printFloat limits fuel level
        ((value.dumps layout indent).toList ++ rest)) (ordered layout value) rest := by
  rcases standard with ⟨⟨blanks, comma, separator⟩, ⟨colon, colons, keys⟩⟩
  have separating (indent : ℕ) :
      ∀ c ∈ blanks ++ (layout.break indent).toList, isSpace c = true := by
    rw [List.forall_mem_append]
    exact ⟨separator, break_blank layout indent⟩
  induction value using Json.induction with
  | null =>
      intro level indent readable rest ends
      exact readsTo_constant (by simp [constants] : ("null", Json.null) ∈ constants) level rest
  | bool value =>
      intro level indent readable rest ends
      cases value with
      | true =>
          exact readsTo_constant (by simp [constants] : ("true", Json.bool true) ∈ constants) level
            rest
      | false =>
          exact readsTo_constant (by simp [constants] : ("false", Json.bool false) ∈ constants)
            level rest
  | int value =>
      intro level indent readable rest ends
      exact readsTo_number (scanNumber_int readable) level ends
  | float printed =>
      intro level indent readable rest ends
      rcases readable with word | read
      · exact readsTo_constant word level rest
      · exact readsTo_number read level ends
  | string value =>
      intro level indent readable rest ends
      refine ⟨1, fun fuel enough => ?_⟩
      rcases Nat.exists_eq_add_of_le' enough with ⟨fuel, rfl⟩
      change (scanValue printFloat limits (fuel + 1) level
        ((quote value).toList ++ rest)).outcome = _
      rw [quote_append, scanValue, if_pos rfl, ← quote_append, scanString_quote]
      rfl
  | array items ih =>
      intro level indent readable rest ends
      rcases readable with ⟨within, each⟩
      rw [readableItems_iff] at each
      rw [dumps, dumpItems_eq, ordered, orderedItems_eq]
      rcases items with _ | ⟨item, items⟩
      · rw [List.map_nil, toList_enclose_nil]
        exact readsTo_array_nil within rest
      · have some : (item :: items).map (dumps layout (indent + 1)) ≠ [] := by simp
        rw [toList_enclose indent comma rfl some, List.map_map]
        refine readsTo_array within (break_blank layout _) (opens_joined
          (opens_dumps layout _ (each item List.mem_cons_self)) _ _) ?_
        refine readsTo_items (List.cons_ne_nil _ _) (separating _) (break_blank layout _) ?_ ?_ rest
        · intro item member rest
          exact (opens_dumps layout _ (each item member)).shown rest
        · intro item member rest ends
          exact ih item member (indent + 1) (each item member) rest ends
  | object fields ih =>
      intro level indent readable rest ends
      rcases readable with ⟨within, distinct, each⟩
      rw [readableFields_iff] at each
      have members (field : String × Json) (member : field ∈ layout.order fields) :
          field ∈ fields := (layout.order_perm fields).mem_iff.mp member
      have sorted :
          (((layout.order fields).map (Prod.map id (ordered layout))).map Prod.fst).Nodup := by
        have keys : ((layout.order fields).map (Prod.map id (ordered layout))).map Prod.fst =
            (layout.order fields).map Prod.fst := by
          rw [List.map_map]
          rfl
        rw [keys, ((layout.order_perm fields).map Prod.fst).nodup_iff]
        exact distinct
      rw [dumps, ordered, orderedFields_eq, Layout.order_map]
      have texts := fieldTexts_dumps (indent + 1) colons fields
      by_cases empty : layout.order fields = []
      · rw [empty, List.map_nil, List.map_eq_nil_iff] at texts
        rw [texts, empty, toList_enclose_nil]
        exact readsTo_object_nil within rest
      · have some : (layout.order (dumpFields layout (indent + 1) fields)).map (fun field =>
            quote field.1 ++ layout.keySeparator ++ field.2) ≠ [] := by
          intro none
          rw [none, List.map_nil] at texts
          exact empty (List.map_eq_nil_iff.mp texts.symm)
        rw [toList_enclose indent comma rfl some, texts]
        refine readsTo_object within sorted (break_blank layout _) ?_ ?_
        · rcases List.exists_cons_of_ne_nil empty with ⟨field, others, same⟩
          rw [same, List.map_cons]
          rcases joined_cons (blanks ++ (layout.break (indent + 1)).toList)
            (fieldText colon (fun value => (value.dumps layout (indent + 1)).toList) field)
            (others.map (fieldText colon fun value => (value.dumps layout (indent + 1)).toList))
            ((layout.break indent).toList ++ ("\x7d".toList ++ rest)) with ⟨more, joining⟩
          rw [joining, fieldText_append, quote_append]
          exact ⟨_, rfl⟩
        · refine readsTo_members empty (separating _) keys (break_blank layout _) ?_ ?_ rest
          · intro field member rest
            exact (opens_dumps layout _ (each field (members field member))).shown rest
          · intro field member rest ends
            have known := members field member
            exact ih field known (indent + 1) (each field known) rest ends

theorem decode_dumps {layout : Layout} {value : Json} (standard : Standard layout)
    (readable : Readable printFloat limits 0 value) {more : List Char}
    (blank : ∀ c ∈ more, isSpace c = true) :
    (decode printFloat limits ((value.dumps layout 0).toList ++ more)).outcome =
      .ok (ordered layout value) := by
  have ends : Ends more := by
    intro c head
    exact isDigit_of_blank (blank c (List.mem_of_mem_head? head))
  have opens := opens_dumps layout 0 readable
  have noMark : ((value.dumps layout 0).toList ++ more).head? ≠ some (Char.ofNat 0xfeff) := by
    rcases opens with ⟨c, tail, same, -, other⟩
    rw [same, List.cons_append, List.head?_cons, ne_eq, Option.some.injEq]
    rintro rfl
    exact other (List.mem_cons_of_mem _ List.mem_cons_self)
  have shown := skipSpace_blank (List.forall_mem_nil _) (opens.shown more)
  rw [List.nil_append] at shown
  have nothing : skipSpace more = [] := by
    have skipped : skipSpace (more ++ []) = [] := skipSpace_blank blank (by simp [Shown])
    rwa [List.append_nil] at skipped
  rcases readsTo_dumps standard value 0 readable more ends with ⟨least, reads⟩
  generalize (value.dumps layout 0).toList ++ more = text at noMark shown reads ⊢
  have enough : 2 * text.length < max least (2 * text.length + 1) :=
    Nat.lt_of_lt_of_le (Nat.lt_succ_self _) (le_max_right least _)
  rw [decode_fuel printFloat limits enough, if_neg noMark, shown,
    outcome_bind (reads _ (le_max_left _ _))]
  dsimp only
  rw [if_pos nothing]
  rfl

/-- What is printed of a document, and white space behind it, is loaded as the document,
with its keys in the order of the layout. -/
theorem loads_dumps {layout : Layout} {value : Json} (standard : Standard layout)
    (readable : Readable printFloat limits 0 value) {more : String}
    (blank : ∀ c ∈ more.toList, isSpace c = true) :
    loads printFloat limits (value.dumps layout 0 ++ more) = .ok (ordered layout value) := by
  rw [loads, String.toList_append, decode_dumps standard readable blank]
  rfl

end JsonDecoder

end FivegLab
