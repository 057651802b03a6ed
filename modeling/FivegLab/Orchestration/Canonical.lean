import FivegLab.Codes
import FivegLab.Orchestration.Context
import Mathlib.Data.List.Perm.Basic

/-!
# Canonical texts

The text that a fingerprint is taken of tells a document up to the order of the
keys of its mappings, at every depth.
-/

namespace FivegLab

namespace Json

open Codes

def hexValue (digit : Char) : ℕ := if digit.toNat < 58 then digit.toNat - 48 else digit.toNat - 87

def readUnit : List Char → Option (ℕ × List Char)
  | a :: b :: c :: d :: rest =>
      some (4096 * hexValue a + 256 * hexValue b + 16 * hexValue c + hexValue d, rest)
  | _ => none

/-- The character that an escape begins with, and what follows it. -/
def unescape : List Char → Option (Char × List Char)
  | '\\' :: '"' :: rest => some ('"', rest)
  | '\\' :: '\\' :: rest => some ('\\', rest)
  | '\\' :: 'n' :: rest => some ('\n', rest)
  | '\\' :: 'r' :: rest => some ('\r', rest)
  | '\\' :: 't' :: rest => some ('\t', rest)
  | '\\' :: 'b' :: rest => some (Char.ofNat 8, rest)
  | '\\' :: 'f' :: rest => some (Char.ofNat 12, rest)
  | '\\' :: 'u' :: rest =>
      match readUnit rest with
      | some (high, '\\' :: 'u' :: rest') =>
          if 0xd800 ≤ high ∧ high < 0xe000 then
            (readUnit rest').map fun (low, rest) =>
              (Char.ofNat (0x10000 + 0x400 * (high - 0xd800) + (low - 0xdc00)), rest)
          else some (Char.ofNat high, '\\' :: 'u' :: rest')
      | some (unit, rest) => some (Char.ofNat unit, rest)
      | none => none
  | symbol :: rest => some (symbol, rest)
  | [] => none

theorem hexValue_hexDigit : ∀ n < 16, hexValue (hexDigit n) = n := by
  decide

theorem readUnit_escapeUnit {n : ℕ} (small : n < 0x10000) (rest : List Char) :
    readUnit ((escapeUnit n).drop 2 ++ rest) = some (n, rest) := by
  have value : 4096 * (n / 4096 % 16) + 256 * (n / 256 % 16) + 16 * (n / 16 % 16) + n % 16 = n := by
    omega
  have digit (m : ℕ) : hexValue (hexDigit (m % 16)) = m % 16 :=
    hexValue_hexDigit _ (Nat.mod_lt _ (by omega))
  simp [escapeUnit, readUnit, digit, value]

theorem escapeUnit_eq (n : ℕ) : escapeUnit n = '\\' :: 'u' :: (escapeUnit n).drop 2 := rfl

/-- A character outside the plane of 16 bits is written as two units. -/
theorem unescape_surrogates {n : ℕ} (large : 0x10000 ≤ n) (small : n < 0x110000)
    (rest : List Char) :
    unescape (escapeUnit (0xd800 + (n - 0x10000) / 0x400) ++
      escapeUnit (0xdc00 + (n - 0x10000) % 0x400) ++ rest) = some (Char.ofNat n, rest) := by
  have high : 0xd800 + (n - 0x10000) / 0x400 < 0xe000 := by omega
  have low : 0xdc00 + (n - 0x10000) % 0x400 < 0x10000 := by omega
  have total : 0x10000 + 0x400 * (0xd800 + (n - 0x10000) / 0x400 - 0xd800) +
      (0xdc00 + (n - 0x10000) % 0x400 - 0xdc00) = n := by
    omega
  rw [escapeUnit_eq, escapeUnit_eq (0xdc00 + _)]
  simp only [List.cons_append, List.append_assoc, unescape]
  rw [readUnit_escapeUnit (by omega)]
  simp only [Nat.le_add_right, high, and_self, if_true]
  rw [readUnit_escapeUnit low, Option.map_some, total]

theorem unescape_unit {n : ℕ} (small : n < 0x10000) (scalar : n < 0xd800 ∨ 0xdfff < n)
    (rest : List Char) : unescape (escapeUnit n ++ rest) = some (Char.ofNat n, rest) := by
  have proper : ¬(0xd800 ≤ n ∧ n < 0xe000) := by omega
  rw [escapeUnit_eq]
  simp only [List.cons_append, unescape]
  rw [readUnit_escapeUnit small]
  split
  case h_1 high rest' read =>
    simp only [Option.some.injEq, Prod.mk.injEq] at read
    rcases read with ⟨rfl, rfl⟩
    rw [if_neg proper]
  case h_2 unit rest' _ read =>
    simp only [Option.some.injEq, Prod.mk.injEq] at read
    rcases read with ⟨rfl, rfl⟩
    rfl
  case h_3 read => simp at read

/-- A character is read back from its escape. -/
theorem unescape_escapeChar (c : Char) (rest : List Char) :
    unescape (escapeChar c ++ rest) = some (c, rest) := by
  have scalar : c.toNat < 0xd800 ∨ 0xdfff < c.toNat ∧ c.toNat < 0x110000 := c.valid
  have byCode {n : ℕ} (code : c.toNat = n) : c = Char.ofNat n := by
    rw [← code, Char.ofNat_toNat]
  rw [escapeChar]
  split_ifs with isQuote isSlash isNewline isReturn isTab isBackspace isFeed isPlain isUnit
  · simp [unescape, isQuote]
  · simp [unescape, isSlash]
  · simp [unescape, isNewline]
  · simp [unescape, isReturn]
  · simp [unescape, isTab]
  · simp [unescape, byCode isBackspace]
  · simp [unescape, byCode isFeed]
  · simp [unescape, isSlash]
  · rw [unescape_unit isUnit (by omega), Char.ofNat_toNat]
  · rw [unescape_surrogates (by omega) (by omega), Char.ofNat_toNat]

theorem escapeChar_opens (c : Char) :
    ∃ symbol rest, escapeChar c = symbol :: rest ∧ symbol ≠ '"' := by
  rw [escapeChar]
  split_ifs with isQuote isSlash isNewline isReturn isTab isBackspace isFeed isPlain isUnit
  all_goals first
    | exact ⟨_, _, rfl, by decide⟩
    | exact ⟨_, _, rfl, isQuote⟩

/-- A quoted text ends where it ends. -/
theorem quote_apart (first second : String) :
    Apart Anything (first = second) (quote first).toList (quote second).toList := by
  have letters := apart_flatMap (apart_of_decoder unescape_escapeChar) escapeChar_opens
    first.toList second.toList
  have quoted := letters.cons '"'
  simp only [quote, String.toList_ofList, List.cons_append]
  exact quoted.mono (fun _ after => after) String.toList_inj.mp

mutual

/-- Equality up to the order of the keys of mappings, at every depth. -/
def Alike : Json → Json → Prop
  | .array items, .array items' => AlikeItems items items'
  | .object fields, .object fields' =>
      ∃ reordered, reordered.Perm fields' ∧ AlikeFields fields reordered
  | value, value' => value = value'

def AlikeItems : List Json → List Json → Prop
  | [], [] => True
  | item :: items, item' :: items' => Alike item item' ∧ AlikeItems items items'
  | _, _ => False

def AlikeFields : List (String × Json) → List (String × Json) → Prop
  | [], [] => True
  | (key, value) :: fields, (key', value') :: fields' =>
      key = key' ∧ Alike value value' ∧ AlikeFields fields fields'
  | _, _ => False

end

/-- The characters that numbers are printed with, `NaN` and `Infinity` included. -/
def IsNumeric (c : Char) : Prop :=
  c.isDigit = true ∨ c ∈ ['+', '-', '.', 'e', 'N', 'a', 'I', 'n', 'f', 'i', 't', 'y']

/-- The characters that the text of a number begins with. -/
def LeadsNumber (c : Char) : Prop := c.isDigit = true ∨ c ∈ ['-', 'N', 'I']

instance (c : Char) : Decidable (IsNumeric c) := inferInstanceAs (Decidable (_ ∨ _))

instance (c : Char) : Decidable (LeadsNumber c) := inferInstanceAs (Decidable (_ ∨ _))

/-- A float is printed as a number, and not as an integer. -/
def IsFloatText (printed : String) : Prop :=
  (∀ c ∈ printed.toList, IsNumeric c) ∧ (∃ c ∈ printed.toList.head?, LeadsNumber c) ∧
    ∃ c ∈ printed.toList, ¬(c.isDigit = true ∨ c = '-')

mutual

/-- Floats are printed as such. -/
def ProperFloats : Json → Prop
  | .float printed => IsFloatText printed
  | .array items => ProperItems items
  | .object fields => ProperFields fields
  | _ => True

def ProperItems : List Json → Prop
  | [] => True
  | item :: items => ProperFloats item ∧ ProperItems items

def ProperFields : List (String × Json) → Prop
  | [] => True
  | (_, value) :: fields => ProperFloats value ∧ ProperFields fields

end

mutual

/-- The keys of every mapping differ. -/
def DistinctKeys : Json → Prop
  | .array items => DistinctItems items
  | .object fields => (fields.map Prod.fst).Nodup ∧ DistinctFields fields
  | _ => True

def DistinctItems : List Json → Prop
  | [] => True
  | item :: items => DistinctKeys item ∧ DistinctItems items

def DistinctFields : List (String × Json) → Prop
  | [] => True
  | (_, value) :: fields => DistinctKeys value ∧ DistinctFields fields

end

/-- A document as Python holds it. -/
structure WellFormed (value : Json) : Prop where
  floats : value.ProperFloats
  keys : value.DistinctKeys

theorem alikeItems_iff {items items' : List Json} :
    AlikeItems items items' ↔ List.Forall₂ Alike items items' := by
  induction items generalizing items' with
  | nil => cases items' <;> simp [AlikeItems]
  | cons item items ih => cases items' <;> simp [AlikeItems, ih]

/-- The same key, and values that are alike. -/
def AlikeField (field field' : String × Json) : Prop :=
  field.1 = field'.1 ∧ Alike field.2 field'.2

theorem alikeFields_iff {fields fields' : List (String × Json)} :
    AlikeFields fields fields' ↔ List.Forall₂ AlikeField fields fields' := by
  induction fields generalizing fields' with
  | nil => cases fields' <;> simp [AlikeFields]
  | cons field fields ih => cases fields' <;> simp [AlikeFields, AlikeField, ih, and_assoc]

theorem properItems_iff {items : List Json} :
    ProperItems items ↔ ∀ item ∈ items, item.ProperFloats := by
  induction items with
  | nil => simp [ProperItems]
  | cons item items ih => simp [ProperItems, ih]

theorem properFields_iff {fields : List (String × Json)} :
    ProperFields fields ↔ ∀ field ∈ fields, field.2.ProperFloats := by
  induction fields with
  | nil => simp [ProperFields]
  | cons field fields ih => rw [ProperFields, ih, List.forall_mem_cons]

theorem distinctItems_iff {items : List Json} :
    DistinctItems items ↔ ∀ item ∈ items, item.DistinctKeys := by
  induction items with
  | nil => simp [DistinctItems]
  | cons item items ih => simp [DistinctItems, ih]

theorem distinctFields_iff {fields : List (String × Json)} :
    DistinctFields fields ↔ ∀ field ∈ fields, field.2.DistinctKeys := by
  induction fields with
  | nil => simp [DistinctFields]
  | cons field fields ih => rw [DistinctFields, ih, List.forall_mem_cons]

/-- Induction over the values inside a document. -/
@[elab_as_elim]
theorem induction {motive : Json → Prop} (null : motive .null)
    (bool : ∀ value, motive (.bool value)) (int : ∀ value, motive (.int value))
    (float : ∀ printed, motive (.float printed)) (string : ∀ value, motive (.string value))
    (array : ∀ items, (∀ item ∈ items, motive item) → motive (.array items))
    (object : ∀ fields, (∀ field ∈ fields, motive field.2) → motive (.object fields)) :
    ∀ value, motive value
  | .null => null
  | .bool value => bool value
  | .int value => int value
  | .float printed => float printed
  | .string value => string value
  | .array items => array items fun item _ =>
      induction null bool int float string array object item
  | .object fields => object fields fun field _ =>
      induction null bool int float string array object field.2
termination_by value => sizeOf value
decreasing_by
  · have smaller := List.sizeOf_lt_of_mem ‹item ∈ items›
    simp only [Json.array.sizeOf_spec]
    omega
  · have smaller := List.sizeOf_lt_of_mem ‹field ∈ fields›
    have inside : sizeOf field.2 < sizeOf field := by
      cases field
      simp only [Prod.mk.sizeOf_spec]
      omega
    simp only [Json.object.sizeOf_spec]
    omega

theorem dumpItems_eq (layout : Layout) (depth : ℕ) (items : List Json) :
    dumpItems layout depth items = items.map (dumps layout depth) := by
  induction items with
  | nil => rfl
  | cons item items ih => rw [dumpItems, ih, List.map_cons]

theorem dumpFields_eq (layout : Layout) (depth : ℕ) (fields : List (String × Json)) :
    dumpFields layout depth fields = fields.map (Prod.map id (dumps layout depth)) := by
  induction fields with
  | nil => rfl
  | cons field fields ih => rw [dumpFields, ih, List.map_cons, Prod.map, id]

/-- Fields are sorted by their keys alone. -/
theorem Layout.order_map {α β : Type} (layout : Layout) (change : α → β)
    (fields : List (String × α)) :
    layout.order (fields.map (Prod.map id change)) =
      (layout.order fields).map (Prod.map id change) := by
  rw [order, order]
  split
  · exact (List.map_insertionSort (fun first second : String × α => first.1 ≤ second.1)
      (fun first second : String × β => first.1 ≤ second.1) _ fields fun _ _ _ _ => Iff.rfl).symm
  · rfl

/-- A text without line breaks does not depend on the depth. -/
theorem dumps_canonical (value : Json) :
    ∀ depth depth', value.dumps .canonical depth = value.dumps .canonical depth' := by
  induction value using induction with
  | array items ih =>
      intro depth depth'
      have same : dumpItems .canonical (depth + 1) items =
          dumpItems .canonical (depth' + 1) items := by
        rw [dumpItems_eq, dumpItems_eq]
        exact List.map_congr_left fun item member => ih item member _ _
      rw [dumps, dumps, same]
      rfl
  | object fields ih =>
      intro depth depth'
      have same : dumpFields .canonical (depth + 1) fields =
          dumpFields .canonical (depth' + 1) fields := by
        rw [dumpFields_eq, dumpFields_eq]
        refine List.map_congr_left fun field member => ?_
        rw [Prod.map, Prod.map, ih field member]
      rw [dumps, dumps, same]
      rfl
  | bool value =>
      intro depth depth'
      cases value <;> rfl
  | _ =>
      intro depth depth'
      rfl

/-- The characters of the canonical text. -/
def chars (value : Json) : List Char := (canonical value).toList

def fieldChars (field : String × Json) : List Char :=
  (quote field.1).toList ++ ':' :: chars field.2

theorem enclose_canonical (depth : ℕ) (left right : String) (items : List String) :
    (enclose .canonical depth left right items).toList =
      left.toList ++ ([','].intercalate (items.map String.toList) ++ right.toList) := by
  have unbroken (depth : ℕ) : Layout.canonical.break depth = "" := rfl
  have comma : Layout.canonical.itemSeparator = "," := rfl
  rw [enclose]
  split
  case isTrue empty => simp [empty]
  case isFalse => simp [unbroken, comma, String.toList_intercalate]

theorem chars_array (items : List Json) :
    chars (.array items) = '[' :: ([','].intercalate (items.map chars) ++ [']']) := by
  have texts : (items.map (dumps .canonical 1)).map String.toList = items.map chars := by
    rw [List.map_map]
    refine List.map_congr_left fun item _ => ?_
    rw [Function.comp, dumps_canonical item 1 0]
    rfl
  rw [chars, canonical, dumps, enclose_canonical, dumpItems_eq, texts]
  rfl

theorem chars_object (fields : List (String × Json)) :
    chars (.object fields) =
      '\x7b' ::
      ([','].intercalate ((Layout.canonical.order fields).map fieldChars) ++ ['\x7d']) := by
  have texts : ((Layout.canonical.order (dumpFields .canonical 1 fields)).map fun field =>
      quote field.1 ++ Layout.canonical.keySeparator ++ field.2).map String.toList =
        (Layout.canonical.order fields).map fieldChars := by
    rw [dumpFields_eq, Layout.order_map, List.map_map, List.map_map]
    refine List.map_congr_left fun field _ => ?_
    have colon : Layout.canonical.keySeparator = ":" := rfl
    simp [colon, fieldChars, chars, canonical, dumps_canonical field.2 1 0]
  rw [chars, canonical, dumps, enclose_canonical, texts]
  rfl

/-- What the first character of a text shows: all numbers look alike. -/
def classOf (c : Char) : Char := if LeadsNumber c then '0' else c

/-- The class of the character that a value begins with. -/
def leader : Json → Char
  | .null => 'n'
  | .bool true => 't'
  | .bool false => 'f'
  | .int _ => '0'
  | .float _ => '0'
  | .string _ => '"'
  | .array _ => '['
  | .object _ => '\x7b'

theorem nat_digits (n : ℕ) : ∀ c ∈ n.repr.toList, c.isDigit = true := by
  intro c member
  rw [Nat.repr_eq_ofList_toDigits, String.toList_ofList] at member
  exact Nat.isDigit_of_mem_toDigits (by omega) (by omega) member

theorem nat_repr_injective {n m : ℕ} (same : n.repr = m.repr) : n = m := by
  rw [Nat.repr_eq_ofList_toDigits, Nat.repr_eq_ofList_toDigits, String.ofList_inj] at same
  rw [← Nat.ofDigitChars_ten_toDigits (n := n), same, Nat.ofDigitChars_ten_toDigits]

theorem toString_int (value : ℤ) :
    toString value = if 0 ≤ value then value.toNat.repr else "-" ++ (-value).toNat.repr :=
  Int.repr_eq_if

theorem nat_ne_negative (n m : ℕ) : n.repr ≠ "-" ++ m.repr := by
  intro same
  have sign : '-' ∈ n.repr.toList := by simp [same]
  exact absurd (nat_digits n '-' sign) (by decide)

theorem int_injective {value value' : ℤ} (same : toString value = toString value') :
    value = value' := by
  rw [toString_int, toString_int] at same
  split_ifs at same with positive positive' positive'
  · have equal := nat_repr_injective same
    omega
  · exact absurd same (nat_ne_negative _ _)
  · exact absurd same.symm (nat_ne_negative _ _)
  · have equal := nat_repr_injective ((String.append_right_inj _).mp same)
    omega

theorem int_chars (value : ℤ) : ∀ c ∈ (toString value).toList, c.isDigit = true ∨ c = '-' := by
  intro c member
  rw [toString_int] at member
  split at member
  · exact .inl (nat_digits _ c member)
  · rw [String.toList_append, List.mem_append] at member
    rcases member with sign | digit
    · exact .inr (List.mem_singleton.mp sign)
    · exact .inl (nat_digits _ c digit)

theorem int_ne_empty (value : ℤ) : toString value ≠ "" := by
  rw [toString_int]
  split
  · exact Nat.repr_ne_empty
  · simp

theorem int_numeric (value : ℤ) : ∀ c ∈ (toString value).toList, IsNumeric c := by
  intro c member
  rcases int_chars value c member with digit | rfl
  · exact .inl digit
  · exact .inr (by decide)

/-- A float is not printed as an integer. -/
theorem int_ne_float (value : ℤ) {printed : String} (isFloat : IsFloatText printed) :
    toString value ≠ printed := by
  rintro rfl
  rcases isFloat with ⟨_, _, c, member, mark⟩
  exact mark (int_chars value c member)

/-- A well-formed value begins with a character of its class. -/
theorem leader_chars {value : Json} (proper : value.ProperFloats) :
    (chars value).head?.map classOf = some value.leader := by
  cases value with
  | null => rfl
  | bool value => cases value <;> rfl
  | int value =>
      have printed : chars (.int value) = (toString value).toList := rfl
      rw [printed]
      cases chars_eq : (toString value).toList with
      | nil => exact absurd (String.toList_eq_nil_iff.mp chars_eq) (int_ne_empty value)
      | cons c rest =>
          have leads : LeadsNumber c := by
            have member : c ∈ (toString value).toList := by
              rw [chars_eq]
              exact List.mem_cons_self
            rcases int_chars value c member with digit | rfl
            · exact .inl digit
            · exact .inr (by decide)
          simp [classOf, leads, leader]
  | float printed =>
      have text : chars (.float printed) = printed.toList := rfl
      rcases proper.2.1 with ⟨c, head, leads⟩
      rw [Option.mem_def] at head
      simp [text, head, classOf, leads, leader]
  | string value =>
      have quoted : chars (.string value) = (quote value).toList := rfl
      rw [quoted, quote, String.toList_ofList]
      rfl
  | array items =>
      rw [chars_array]
      rfl
  | object fields =>
      rw [chars_object]
      rfl

theorem chars_opens {value : Json} (proper : value.ProperFloats) {mark : Char}
    (outside : classOf mark = ']') : ∃ symbol rest, chars value = symbol :: rest ∧
      symbol ≠ mark := by
  have head := leader_chars proper
  cases chars_eq : chars value with
  | nil => simp [chars_eq] at head
  | cons symbol rest =>
      refine ⟨symbol, rest, rfl, ?_⟩
      rintro rfl
      rw [chars_eq, List.head?_cons, Option.map_some, outside, Option.some.injEq] at head
      cases value with
      | bool value => cases value <;> simp [leader] at head
      | _ => simp [leader] at head

theorem numbers_apart {printed printed' : String}
    (numeric : ∀ c ∈ printed.toList, IsNumeric c) (numeric' : ∀ c ∈ printed'.toList, IsNumeric c) :
    Apart (Outside IsNumeric) (printed = printed') printed.toList printed'.toList :=
  (apart_of_inside numeric numeric').mono (fun _ after => after) String.toList_inj.mp

theorem fields_apart {field field' : String × Json}
    (values : Apart (Outside IsNumeric) (Alike field.2 field'.2) (chars field.2) (chars field'.2)) :
    Apart (Outside IsNumeric) (AlikeField field field') (fieldChars field) (fieldChars field') :=
  (quote_apart field.1 field'.1).append (values.cons ':') (fun _ _ => trivial) fun _ _ => trivial

theorem fieldChars_opens (field : String × Json) :
    ∃ symbol rest, fieldChars field = symbol :: rest ∧ symbol ≠ '\x7d' := by
  have quoted : fieldChars field =
      '"' :: (field.1.toList.flatMap escapeChar ++ ['"'] ++ ':' :: chars field.2) := by
    rw [fieldChars, quote, String.toList_ofList]
    rfl
  exact ⟨'"', _, quoted, by decide⟩

/-- Values of different classes are told apart by their first character. -/
theorem apart_of_leaders {value value' : Json} {agree : Prop} (proper : value.ProperFloats)
    (proper' : value'.ProperFloats) (different : value.leader ≠ value'.leader) :
    Apart (Outside IsNumeric) agree (chars value) (chars value') := by
  have head := leader_chars proper
  have head' := leader_chars proper'
  cases chars_eq : chars value with
  | nil => simp [chars_eq] at head
  | cons symbol rest =>
      cases chars_eq' : chars value' with
      | nil => simp [chars_eq'] at head'
      | cons symbol' rest' =>
          simp only [chars_eq, chars_eq', List.head?_cons, Option.map_some, Option.some.injEq]
            at head head'
          refine apart_of_heads fun same => different ?_
          rw [← head, ← head', same]

/-- It is enough to look at values of one class. -/
theorem apart_of_class {value value' : Json} {agree : Prop} (proper : value.ProperFloats)
    (proper' : value'.ProperFloats)
    (sameClass : value.leader = value'.leader →
      Apart (Outside IsNumeric) agree (chars value) (chars value')) :
    Apart (Outside IsNumeric) agree (chars value) (chars value') := by
  by_cases same : value.leader = value'.leader
  · exact sameClass same
  · exact apart_of_leaders proper proper' same

/-- The texts of two values, followed by no number, tell whether they are alike. -/
theorem chars_apart (value : Json) : ∀ value' : Json, value.ProperFloats → value'.ProperFloats →
    Apart (Outside IsNumeric) (Alike value value') (chars value) (chars value') := by
  have comma : ∀ rest, Outside IsNumeric (',' :: rest) := Outside.cons (by decide)
  have bracket : ∀ rest, Outside IsNumeric (']' :: rest) := Outside.cons (by decide)
  have brace : ∀ rest, Outside IsNumeric ('\x7d' :: rest) := Outside.cons (by decide)
  induction value using induction with
  | null =>
      intro value' proper proper'
      refine apart_of_class proper proper' fun sameClass => ?_
      cases value' with
      | null => exact (Apart.refl _).mono (fun _ _ => trivial) fun _ => rfl
      | bool value' => cases value' <;> simp [leader] at sameClass
      | _ => simp [leader] at sameClass
  | bool value =>
      intro value' proper proper'
      refine apart_of_class proper proper' fun sameClass => ?_
      have same : value' = .bool value := by
        cases value <;> cases value' with
        | bool value' => cases value' <;> simp [leader] at sameClass ⊢
        | _ => simp [leader] at sameClass
      subst same
      exact (Apart.refl _).mono (fun _ _ => trivial) fun _ => rfl
  | int value =>
      intro value' proper proper'
      refine apart_of_class proper proper' fun sameClass => ?_
      cases value' with
      | int value' =>
          refine (numbers_apart (int_numeric value) (int_numeric value')).mono
            (fun _ after => after) fun same => ?_
          rw [int_injective same]
          rfl
      | float printed =>
          refine (numbers_apart (int_numeric value) proper'.1).mono (fun _ after => after)
            fun same => ?_
          exact absurd same (int_ne_float value proper')
      | bool value' => cases value' <;> simp [leader] at sameClass
      | _ => simp [leader] at sameClass
  | float printed =>
      intro value' proper proper'
      refine apart_of_class proper proper' fun sameClass => ?_
      cases value' with
      | int value' =>
          refine (numbers_apart proper.1 (int_numeric value')).mono (fun _ after => after)
            fun same => ?_
          exact absurd same.symm (int_ne_float value' proper)
      | float printed' =>
          refine (numbers_apart proper.1 proper'.1).mono (fun _ after => after)
            fun same => ?_
          rw [same]
          rfl
      | bool value' => cases value' <;> simp [leader] at sameClass
      | _ => simp [leader] at sameClass
  | string value =>
      intro value' proper proper'
      refine apart_of_class proper proper' fun sameClass => ?_
      cases value' with
      | string value' =>
          refine (quote_apart value value').mono (fun _ _ => trivial) fun same => ?_
          rw [same]
          rfl
      | bool value' => cases value' <;> simp [leader] at sameClass
      | _ => simp [leader] at sameClass
  | array items ih =>
      intro value' proper proper'
      refine apart_of_class proper proper' fun sameClass => ?_
      cases value' with
      | array items' =>
          have formed := properItems_iff.mp proper
          have formed' := properItems_iff.mp proper'
          have opens : ∀ items : List Json, (∀ item ∈ items, item.ProperFloats) → ∀ item ∈ items,
              ∃ symbol rest, chars item = symbol :: rest ∧ symbol ≠ ']' :=
            fun items formed item member => chars_opens (formed item member) (by decide)
          have enclosed := apart_enclosed comma bracket (by decide) (opens items formed)
            (opens items' formed') fun item member item' member' =>
              ih item member item' (formed item member) (formed' item' member')
          rw [chars_array, chars_array]
          exact (enclosed.cons '[').mono (fun _ _ => trivial) alikeItems_iff.mpr
      | bool value' => cases value' <;> simp [leader] at sameClass
      | _ => simp [leader] at sameClass
  | object fields ih =>
      intro value' proper proper'
      refine apart_of_class proper proper' fun sameClass => ?_
      cases value' with
      | object fields' =>
          have formed := properFields_iff.mp proper
          have formed' := properFields_iff.mp proper'
          have sorts := Layout.canonical.order_perm fields
          have sorts' := Layout.canonical.order_perm fields'
          have enclosed := apart_enclosed comma brace (by decide)
            (fun field (_ : field ∈ Layout.canonical.order fields) => fieldChars_opens field)
            (fun field (_ : field ∈ Layout.canonical.order fields') => fieldChars_opens field)
            fun field member field' member' =>
              fields_apart (ih field (sorts.mem_iff.mp member) field'.2
                (formed field (sorts.mem_iff.mp member))
                (formed' field' (sorts'.mem_iff.mp member')))
          rw [chars_object, chars_object]
          refine (enclosed.cons '\x7b').mono (fun _ _ => trivial) fun sorted => ?_
          rcases List.perm_comp_forall₂ sorts.symm sorted with ⟨reordered, same, permuted⟩
          exact ⟨reordered, permuted.trans sorts', alikeFields_iff.mpr same⟩
      | bool value' => cases value' <;> simp [leader] at sameClass
      | _ => simp [leader] at sameClass

/-- Fields with different keys have one sorted order. -/
theorem order_eq_of_perm {α : Type} {fields fields' : List (String × α)}
    (distinct : (fields.map Prod.fst).Nodup) (permuted : fields.Perm fields') :
    Layout.canonical.order fields = Layout.canonical.order fields' := by
  have sorts := Layout.canonical.order_perm fields
  have sorts' := Layout.canonical.order_perm fields'
  refine List.Perm.eq_of_pairwise ?_ (List.pairwise_insertionSort _ fields)
    (List.pairwise_insertionSort _ fields') (sorts.trans (permuted.trans sorts'.symm))
  intro field field' member member' below above
  have sameKey : field.1 = field'.1 := le_antisymm below above
  exact List.inj_on_of_nodup_map distinct (sorts.mem_iff.mp member)
    (permuted.mem_iff.mpr (sorts'.mem_iff.mp member')) sameKey

theorem map_eq_of_forall₂ {α β : Type} {relation : α → α → Prop} {code : α → β}
    {first second : List α} (related : List.Forall₂ relation first second)
    (same : ∀ item ∈ first, ∀ item', relation item item' → code item = code item') :
    first.map code = second.map code := by
  induction related with
  | nil => rfl
  | cons head _ ih =>
      rw [List.map_cons, List.map_cons, same _ List.mem_cons_self _ head,
        ih fun item member => same item (List.mem_cons_of_mem _ member)]

/-- The fields with the texts of their values, in sorted order. -/
theorem fieldTexts_eq (fields : List (String × Json)) :
    (Layout.canonical.order fields).map fieldChars =
      (Layout.canonical.order (fields.map (Prod.map id chars))).map fun field =>
        (quote field.1).toList ++ ':' :: field.2 := by
  rw [Layout.order_map, List.map_map]
  rfl

/-- Alike values have the same text. -/
theorem chars_eq_of_alike (value : Json) : ∀ value' : Json, value.DistinctKeys →
    Alike value value' → chars value = chars value' := by
  induction value using induction with
  | array items ih =>
      intro value' distinct alike
      cases value' with
      | array items' =>
          have formed := distinctItems_iff.mp distinct
          have texts : items.map chars = items'.map chars :=
            map_eq_of_forall₂ (alikeItems_iff.mp alike) fun item member item' =>
              ih item member item' (formed item member)
          rw [chars_array, chars_array, texts]
      | _ => simp [Alike] at alike
  | object fields ih =>
      intro value' distinct alike
      cases value' with
      | object fields' =>
          have formed := distinctFields_iff.mp distinct.2
          rcases alike with ⟨reordered, permuted, alikes⟩
          have texts : fields.map (Prod.map id chars) = reordered.map (Prod.map id chars) := by
            refine map_eq_of_forall₂ (alikeFields_iff.mp alikes) fun field member field' same => ?_
            exact Prod.ext same.1 (ih field member field'.2 (formed field member) same.2)
          have distinctTexts : ((fields.map (Prod.map id chars)).map Prod.fst).Nodup := by
            rw [List.map_map]
            exact distinct.1
          have reorders :
              (fields.map (Prod.map id chars)).Perm (fields'.map (Prod.map id chars)) := by
            rw [texts]
            exact permuted.map _
          rw [chars_object, chars_object, fieldTexts_eq, fieldTexts_eq,
            order_eq_of_perm distinctTexts reorders]
      | _ => simp [Alike] at alike
  | _ =>
      intro value' _ alike
      cases value' <;> simp_all [Alike]

/-- A canonical text stands for one document, up to the order of keys. -/
theorem alike_of_canonical_eq {value value' : Json} (proper : value.ProperFloats)
    (proper' : value'.ProperFloats) (same : canonical value = canonical value') :
    Alike value value' := by
  have apart := chars_apart value value' proper proper' [] [] Outside.nil Outside.nil
  exact (apart (by rw [chars, chars, same])).1

/-- The text that a context is fingerprinted by is the same for two documents exactly
when they are equal up to the order of the keys of their mappings. -/
theorem canonical_unambiguous (value value' : Json) (wellFormed : value.WellFormed)
    (wellFormed' : value'.WellFormed) : canonical value = canonical value' ↔
      Alike value value' := by
  constructor
  · intro same
    exact alike_of_canonical_eq wellFormed.floats wellFormed'.floats same
  · intro alike
    exact String.toList_inj.mp (chars_eq_of_alike value value' wellFormed.keys alike)

theorem canonical_unambiguous_reordered :
    canonical (.object [("b", .array [.int 1, .null]), ("a", .string "x")]) =
      canonical (.object [("a", .string "x"), ("b", .array [.int 1, .null])]) := by
  refine (canonical_unambiguous _ _ ⟨?_, ?_⟩ ⟨?_, ?_⟩).mpr ⟨_, List.Perm.swap _ _ [], ?_⟩
  · simp [ProperFloats, ProperFields, ProperItems]
  · simp [DistinctKeys, DistinctFields, DistinctItems]
  · simp [ProperFloats, ProperFields, ProperItems]
  · simp [DistinctKeys, DistinctFields, DistinctItems]
  · simp [AlikeFields, Alike, AlikeItems]

end Json

end FivegLab
